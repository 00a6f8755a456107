import AlertRelay.Channel.Kind
import AlertRelay.Schema
import AlertRelay.Slack.ApiError

/-!
Pages of Slack lists.

A list is handed out in pages, each of which may name a cursor for the next one.
-/

namespace AlertRelay.Channel

open Schema

/-- A channel or a user in a list.  `fields` holds everything, known or not. -/
structure Item where
  id : String
  name : String
  displayName : Option String
  fields : List (String × Value)

/-- A page of a list.  Without a cursor it is the last one. -/
structure Page where
  items : List Item
  next : Option String

/-- The most items that Slack hands out at once. -/
def pageLimit : Double := 1000

/-- A profile: the display name, and all fields as a value.  There may be none. -/
def profileOf (profile : Value) : Except (List Issue) (Option String × Value) :=
  match profile with
  | .undefined => .ok (none, .undefined)
  | _ =>
    match record ["display_name"] [] profile, optional text [] (profile.get "display_name") with
    | .ok fields, .ok name => .ok (name, .ofFields fields)
    | .ok _, .error es => .error es
    | .error es, _ => .error es

/-- An item, if it has an identity and a name; a profile must be a record with a textual
display name, if it has one. -/
def Item.ofValue? (v : Value) : Option Item :=
  match record ["id", "name", "profile"] [] v, nonEmptyText emptyText [] (v.get "id"),
      text [] (v.get "name"), profileOf (v.get "profile") with
  | .ok fields, .ok id, .ok name, .ok (displayName, profile) =>
    some ⟨id, name, displayName, Assoc.put "profile" profile fields⟩
  | _, _, _, _ => none

/-- The cursor in the metadata of an answer; an empty one counts for none. -/
def cursorOf? (metadata : Value) : Option String :=
  match record [] [] metadata with
  | .ok _ => (metadata.get "next_cursor").text?.filter (· != "")
  | .error _ => none

/-- The error of an answer that holds no valid list. -/
def invalidAnswer (kind : Kind) : Slack.ApiError :=
  { message := "Slack API error: " ++ kind.method ++ " response missing valid \"" ++
      kind.itemsField ++ "\""
    code := .text "invalid_response"
    method := kind.method
    slackError := .undefined
    statusCode := none
    retryAfterMs := none }

/-- The page that an answer holds. -/
def Page.ofAnswer (kind : Kind) (answer : Value) : Except Slack.ApiError Page :=
  match (answer.get kind.itemsField).items? with
  | none => .error (invalidAnswer kind)
  | some values =>
    match values.mapM Item.ofValue? with
    | some items => .ok ⟨items, cursorOf? (answer.get "response_metadata")⟩
    | none => .error (invalidAnswer kind)

/-- The parameters of the call for a page, which may go without a limit. -/
def pageParams (cursor : String) (limit : Option Double) : Value :=
  .ofFields [("exclude_archived", .bool false), ("exclude_members", .bool true),
    ("types", .text "public_channel,private_channel"), ("cursor", .text cursor),
    ("limit", limit.elim .null .number)]

/-- A page as a value. -/
def Page.toValue (p : Page) : Value :=
  .ofFields ([("items", .ofList (p.items.map fun i => .ofFields i.fields))] ++
    (p.next.map fun c => ("nextCursor", Value.text c)).toList)

end AlertRelay.Channel
