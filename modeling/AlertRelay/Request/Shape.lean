import AlertRelay.Failure
import AlertRelay.Text.Units

/-!
Shapes that the values of a request must have.

A shape lists the properties of a request with the rules for each.  `Shape.check` converts
and checks all of them: it gives the known properties, or every message in order.  What no number
can be made of is no matter of the rules: the conversion itself fails.
-/

namespace AlertRelay.Request

open AlertRelay.Text

/-- A rule for the value of a property. -/
inductive Rule where
  | oneOf (allowed : List Double)
  | wholeNumber
  | atMost (length : Nat)
  | notEmpty
  | isText
deriving DecidableEq, Repr

/-- A property: a number if `numeric`, and possibly missing if `optional`. -/
structure Property where
  name : String
  numeric : Bool
  optional : Bool
  rules : List Rule
deriving DecidableEq, Repr

/-- Marks that change how the character before them looks. -/
def isPresentationMark (c : Char) : Bool :=
  c == '\uFE0E' || c == '\uFE0F'

/-- The length of a text as people see it: characters, without marks that follow another
character. -/
def visibleLength : List Char → Nat
  | [] => 0
  | c :: m :: rest =>
    if !isPresentationMark c && isPresentationMark m then 1 + visibleLength rest
    else 1 + visibleLength (m :: rest)
  | [_] => 1

namespace Rule

/-- Whether a value follows a rule. -/
def holds (v : Value) : Rule → Bool
  | .oneOf allowed => v.number?.any allowed.contains
  | .wholeNumber => v.number?.any Double.isInteger
  | .atMost length => v.text?.any fun s => visibleLength s.toList ≤ length
  | .notEmpty =>
    match v with
    | .text s => s != ""
    | _ => !v.isAbsent
  | .isText => v.text?.isSome

/-- What is told about a property that breaks a rule. -/
def message (name : String) : Rule → String
  | .oneOf allowed =>
    name ++ " must be one of the following values: " ++ ", ".intercalate (allowed.map Double.text)
  | .wholeNumber => name ++ " must be an integer number"
  | .atMost length =>
    name ++ " must be shorter than or equal to " ++ (Double.ofNat length).text ++ " characters"
  | .notEmpty => name ++ " should not be empty"
  | .isText => name ++ " must be a string"

end Rule

/-- The number that a single value stands for. -/
def numberOf : Value → Value
  | .undefined => .undefined
  | .null => .null
  | .bool b => .number (if b then 1 else 0)
  | .number n => .number n
  | .bigint n => .number (.ofInt n)
  | .text s => .number (Double.ofText s)
  | .date instant => .number (instant.elim .nan Double.ofInt)
  | .error i kind fields => .number (Double.ofText (Value.error i kind fields).display)
  | _ => .number .nan

/-- A value converted to a number; a list is converted item by item and stays a list. -/
def toNumber : Value → Value
  | .list id items => .list id (items.map numberOf)
  | v => numberOf v

mutual

/-- What is thrown where no number can be made of a value, or of something in a list: there is no
text to read it from, or the list comes to itself. -/
def numberFailure? : Value → Option Value
  | .list _ items => itemsNumberFailure? items
  | .again _ => some Value.endlessTextError
  | v => v.textFailure? []

def itemsNumberFailure? : List Value → Option Value
  | [] => none
  | v :: rest => (numberFailure? v).or (itemsNumberFailure? rest)

end

namespace Property

/-- The value of a property as it is checked. -/
def read (p : Property) (v : Value) : Value :=
  if p.numeric then toNumber (v.get p.name) else v.get p.name

/-- The messages about a value of the property.  A property that may be missing may also be
null. -/
def messages (p : Property) (v : Value) : List String :=
  if p.optional && v.isAbsent then []
  else (p.rules.filter fun r => !r.holds v).map (Rule.message p.name)

end Property

/-- The properties of a request, in the order of the messages. -/
abbrev Shape := List Property

namespace Shape

/-- What is thrown where a field that is to be a number cannot be made one. -/
def fieldFailure? (shape : Shape) (field : String × Value) : Option Value :=
  if shape.any fun p => p.numeric && p.name == field.1 then numberFailure? field.2 else none

mutual

/-- What is thrown where a property cannot be made a number, also in one of several values. -/
def failure? (shape : Shape) : Value → Option Value
  | .list _ items => shape.itemsFailure? items
  | .again _ => some Value.endlessTextError
  | v => (v.fields?.getD []).findSome? shape.fieldFailure?

def itemsFailure? (shape : Shape) : List Value → Option Value
  | [] => none
  | v :: rest => (shape.failure? v).or (shape.itemsFailure? rest)

end

/-- The properties that a value gives, converted: the fields that it lists, if it lists any. -/
def readings (shape : Shape) (v : Value) : List (Property × Value) :=
  shape.map fun p => (p, p.read (.ofFields (v.fields?.getD [])))

/-- The values of the known properties, or the failure to convert them, or every message about
them. -/
def check (shape : Shape) (v : Value) : Except Failure (List (String × Value)) :=
  match shape.failure? v with
  | some thrown => .error (.foreign thrown)
  | none =>
    match (shape.readings v).flatMap fun (p, x) => p.messages x with
    | [] => .ok (((shape.readings v).map fun (p, x) => (p.name, x)).filter fun f => !f.2.isUndefined)
    | messages => .error (.invalidRequest messages)

end Shape

/-- A property with a code. -/
def coded (name : String) (allowed : List Double) : Property :=
  ⟨name, true, false, [.oneOf allowed, .wholeNumber]⟩

/-- An identity that must be there. -/
def required (name : String) : Property :=
  ⟨name, false, false, [.notEmpty, .isText]⟩

/-- An identity that may be missing. -/
def optional (name : String) : Property :=
  ⟨name, false, true, [.notEmpty, .isText]⟩

example : Shape.check [required "name"] (.ofFields []) =
    .error (.invalidRequest ["name should not be empty", "name must be a string"]) := by
  rfl

end AlertRelay.Request
