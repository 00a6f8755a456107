import AlertRelay.Text.Blank
import AlertRelay.Value.Display

/-!
Users and teams to whom an issue can be assigned.

An `ActorId` is written `user:<id>` or `team:<id>`; `ActorId.read?` accepts exactly the texts
that `ActorId.text` writes for identities that are not empty and stand on one line.
-/

namespace AlertRelay.Attachment

open AlertRelay.Text

/-- Users and teams. -/
inductive ActorKind where
  | user
  | team
deriving DecidableEq, Repr

def ActorKind.name : ActorKind → String
  | .user => "user"
  | .team => "team"

/-- What a user or a team is found by. -/
structure ActorId where
  kind : ActorKind
  id : String
deriving DecidableEq, Repr

/-- A user or a team with the name to show: a display name or a team's short name.  Identity
and name are as they are stored. -/
structure Actor where
  kind : ActorKind
  id : Value
  name : Value

/-- An entry of a picker: what it shows and what it stands for. -/
structure PickerOption where
  text : Value
  value : String

/-- Characters that end a line. -/
def isLineEnd (c : Char) : Bool :=
  c == '\n' || c == '\r' || c == '\u2028' || c == '\u2029'

namespace ActorId

/-- The text of an actor's identity. -/
def text (a : ActorId) : String :=
  a.kind.name ++ ":" ++ a.id

/-- The identity that follows the name of a kind, if it is one. -/
def ofRest? (kind : ActorKind) (rest : List Char) : Option ActorId :=
  if rest.isEmpty || rest.any isLineEnd then none else some ⟨kind, String.ofList rest⟩

/-- Reads the text of an actor's identity. -/
def read? (s : String) : Option ActorId :=
  match dropBeginning? "user:".toList s.toList with
  | some rest => ofRest? .user rest
  | none =>
    match dropBeginning? "team:".toList s.toList with
    | some rest => ofRest? .team rest
    | none => none

example : read? "user:team:1" = some ⟨.user, "team:1"⟩ := by decide +kernel

example : read? "team:" = none := by decide +kernel

end ActorId

namespace Actor

/-- The identity of an actor. -/
def identity (a : Actor) : ActorId := ⟨a.kind, a.id.display⟩

/-- The entry of a picker for an actor. -/
def option (a : Actor) : PickerOption :=
  { text :=
      match a.kind with
      | .team => .text ("#" ++ a.name.display)
      | .user => a.name
    value := a.identity.text }

end Actor

end AlertRelay.Attachment
