import AlertRelay.Instant
import AlertRelay.Value.Basic

/-!
The plain text of a value, as it stands in messages for people.
-/

namespace AlertRelay

namespace Instant

/-- The names of the days, from the first day of 1970 on. -/
def dayNames : List String := ["Thu", "Fri", "Sat", "Sun", "Mon", "Tue", "Wed"]

def monthNames : List String :=
  ["Jan", "Feb", "Mar", "Apr", "May", "Jun", "Jul", "Aug", "Sep", "Oct", "Nov", "Dec"]

/-- An instant with names for day and month, in Greenwich time. -/
def longText (ms : Int) : String :=
  let days := Int.fdiv ms 86400000
  let d := dayOf days
  let rest := (Int.fmod ms 86400000).toNat
  let year := (if d.year < 0 then "-" else "") ++ padded 4 d.year.natAbs
  (dayNames[(Int.fmod days 7).toNat]?.getD "") ++ " " ++ (monthNames[d.month - 1]?.getD "") ++
    " " ++ padded 2 d.day ++ " " ++ year ++ " " ++ padded 2 (rest / 3600000) ++ ":" ++
    padded 2 (rest / 60000 % 60) ++ ":" ++ padded 2 (rest / 1000 % 60) ++
    " GMT+0000 (Coordinated Universal Time)"

end Instant

namespace Value

/-- The name and the message of an error, with a colon between them if both are there. -/
def errorTitle (name message : String) : String :=
  if name = "" then message
  else if message = "" then name
  else name ++ ": " ++ message

mutual

/-- The plain text of a value.  Items of a list stand side by side with commas, missing ones
as empty texts; a record has no text of its own. -/
def display : Value → String
  | .undefined => "undefined"
  | .null => "null"
  | .bool b => if b then "true" else "false"
  | .number n => n.text
  | .bigint n => toString n
  | .text s => s
  | .date (some ms) => Instant.longText ms
  | .date none => "Invalid Date"
  | .list _ items => ",".intercalate (displayItems items)
  | .record _ _ => "[object Object]"
  | .error _ kind fields =>
    errorTitle (displayField "name" kind.name "Error" fields) (displayField "message" "" "" fields)
  | .again _ => ""

def displayItems : List Value → List String
  | [] => []
  | v :: rest => (if v.isAbsent then "" else display v) :: displayItems rest

/-- The plain text of the field of a name, or other texts if there is none or if it is
undefined. -/
def displayField (name missing undefined : String) : List (String × Value) → String
  | [] => missing
  | (k, v) :: rest =>
    if k = name then if v.isUndefined then undefined else display v
    else displayField name missing undefined rest

end

/-- The error for a value that cannot be made into a text. -/
def noTextError : Value :=
  .error none .typeError [("message", .text "Cannot convert object to primitive value")]

/-- The error for a text that would hold itself. -/
def endlessTextError : Value :=
  .error none .rangeError [("message", .text "Maximum call stack size exceeded")]

/-- Whether fields leave no way to make a text of what has them: one of them stands in the
place of that way. -/
def hidesText (fields : List (String × Value)) : Bool :=
  (Assoc.names fields).contains "toString"

mutual

/-- What is thrown where the plain text of a value cannot be made: a record or an error hides
it, or an error is its own name or message.  `within` are the errors whose text is being made;
a list that comes to itself stops there. -/
def textFailure? (within : List Nat) : Value → Option Value
  | .list _ items => itemsTextFailure? items
  | .record _ fields => if hidesText fields then some noTextError else none
  | .error i _ fields =>
    if hidesText fields then some noTextError
    else
      (fieldTextFailure? (i.toList ++ within) "name" fields).or
        (fieldTextFailure? (i.toList ++ within) "message" fields)
  | .again n => if within.contains n then some endlessTextError else none
  | _ => none

def itemsTextFailure? : List Value → Option Value
  | [] => none
  | v :: rest => (textFailure? [] v).or (itemsTextFailure? rest)

def fieldTextFailure? (within : List Nat) (name : String) :
    List (String × Value) → Option Value
  | [] => none
  | (k, v) :: rest =>
    if k = name then textFailure? within v else fieldTextFailure? within name rest

end

/-- What the message of a value that was thrown is made of: the message of an error, if it has
one, else the value. -/
def messageSource (v : Value) : Value :=
  match v with
  | .error _ _ _ =>
    let message := v.get "message"
    if message.isTruthy then message else v
  | _ => v

/-- The message of a value that was thrown. -/
def thrownMessage (v : Value) : String :=
  v.messageSource.display

example : textFailure? [] (.ofList [.null, .ofFields [("toString", .text "a")]]) =
    some noTextError := by
  rfl

example : textFailure? [] (.error (some 1) .error [("message", .list (some 2) [.again 1])]) =
    none := by
  rfl

end Value

end AlertRelay
