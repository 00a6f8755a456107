import AlertRelay.Value.Basic

/-!
Checks of the shape of values.

A check gives the value it read, or a list of issues, each with the path to the place where
it was found.
-/

namespace AlertRelay.Schema

/-- Something that is wrong with a value, and where. -/
structure Issue where
  path : List String
  code : String
  message : String
deriving DecidableEq, Repr

/-- The name of the kind of a value. -/
def kindName : Value → String
  | .undefined => "undefined"
  | .null => "null"
  | .bool _ => "boolean"
  | .number .nan => "nan"
  | .number _ => "number"
  | .bigint _ => "bigint"
  | .text _ => "string"
  | .date _ => "date"
  | .list _ _ => "array"
  | .record _ _ => "object"
  | .error _ _ _ => "object"
  | .again _ => "object"

/-- The issue that a value is of another kind than expected; one that is undefined is
missing. -/
def wrongKind (path : List String) (expected : String) (v : Value) : Issue :=
  { path
    code := "invalid_type"
    message :=
      match v with
      | .undefined => "Required"
      | _ => "Expected " ++ expected ++ ", received " ++ kindName v }

/-- The issue that a text is empty. -/
def tooShort (path : List String) (message : String) : Issue :=
  { path, code := "too_small", message }

/-- What is told about a text that is empty. -/
def emptyText : String := "String must contain at least 1 character(s)"

/-- A check of one value at a path. -/
abbrev Check (α : Type) := List String → Value → Except (List Issue) α

/-- A text. -/
def text : Check String := fun path v =>
  match v with
  | .text s => .ok s
  | _ => .error [wrongKind path "string" v]

/-- A text that is not empty. -/
def nonEmptyText (message : String) : Check String := fun path v =>
  match v with
  | .text s => if s = "" then .error [tooShort path message] else .ok s
  | _ => .error [wrongKind path "string" v]

/-- Something that may be undefined. -/
def optional {α : Type} (check : Check α) : Check (Option α) := fun path v =>
  match v with
  | .undefined => .ok none
  | _ => (check path v).map some

/-- The fields of a checked record: those that the check knows, as far as they are there, and
then all others.  A field `__proto__` is not kept. -/
def keptFields (known : List String) (v : Value) (listed : List (String × Value)) :
    List (String × Value) :=
  (known.filter v.has).map (fun name => (name, v.get name)) ++
    listed.filter fun f => !known.contains f.1 && f.1 != "__proto__"

/-- A record of which some fields are known, by the fields that are kept. -/
def record (known : List String) (path : List String) (v : Value) :
    Except (List Issue) (List (String × Value)) :=
  match v.fields? with
  | some listed => .ok (keptFields known v listed)
  | none => .error [wrongKind path "object" v]

/-- The issues of a check, if any. -/
def issues {α : Type} : Except (List Issue) α → List Issue
  | .ok _ => []
  | .error es => es

end AlertRelay.Schema
