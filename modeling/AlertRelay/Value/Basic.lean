import AlertRelay.Assoc
import AlertRelay.Number.Double

/-!
Values that come from outside with a shape of their own: database rows, replies, request
bodies, things that were thrown.

Containers may carry an identity, so that one container met twice can be told from two equal
ones; `again` stands, inside a container with an identity, for that container itself.
-/

namespace AlertRelay

/-- The classes of errors that are told apart. -/
inductive ErrorClass where
  | error
  | typeError
  | rangeError
  | slackApi
  | duplicateName
  | http
deriving DecidableEq, Repr

/-- The name that an error of a class has unless it is given another one. -/
def ErrorClass.name : ErrorClass → String
  | .error => "Error"
  | .typeError => "TypeError"
  | .rangeError => "RangeError"
  | .slackApi => "SlackApiError"
  | .duplicateName => "DuplicateDisplayNameError"
  | .http => "HttpException"

/-- Whether an error of a class lists a field among its parts: never its stack, and its message
only if the error brings the answer to a web request along. -/
def ErrorClass.lists (kind : ErrorClass) (name : String) : Bool :=
  name != "stack" && (name != "message" || kind == .duplicateName || kind == .http)

/-- A value of any shape. -/
inductive Value where
  | undefined
  | null
  | bool (b : Bool)
  | number (n : Double)
  | bigint (n : Int)
  | text (s : String)
  | date (instant : Option Int)
  | list (id : Option Nat) (items : List Value)
  | record (id : Option Nat) (fields : List (String × Value))
  | error (id : Option Nat) (kind : ErrorClass) (fields : List (String × Value))
  | again (id : Nat)

namespace Value

instance : Inhabited Value := ⟨.undefined⟩

mutual

/-- Puts a container where it stands for itself inside its own parts. -/
def unfoldWith (id : Nat) (whole : Value) : Value → Value
  | .again n => if n = id then whole else .again n
  | .list i items => .list i (unfoldItems id whole items)
  | .record i fields => .record i (unfoldFields id whole fields)
  | .error i kind fields => .error i kind (unfoldFields id whole fields)
  | v => v

def unfoldItems (id : Nat) (whole : Value) : List Value → List Value
  | [] => []
  | v :: rest => unfoldWith id whole v :: unfoldItems id whole rest

def unfoldFields (id : Nat) (whole : Value) :
    List (String × Value) → List (String × Value)
  | [] => []
  | (k, v) :: rest => (k, unfoldWith id whole v) :: unfoldFields id whole rest

end

/-- The identity of a container. -/
def id? : Value → Option Nat
  | .list i _ => i
  | .record i _ => i
  | .error i _ _ => i
  | _ => none

/-- A part of a container as a value by itself. -/
def part (whole inner : Value) : Value :=
  match whole.id? with
  | some id => unfoldWith id whole inner
  | none => inner

/-- The field of a record or an error; a field that is not there is undefined, but every error
has a name and a message. -/
def get (v : Value) (name : String) : Value :=
  match v with
  | .record _ fields => (Assoc.get? name fields).elim .undefined v.part
  | .error _ kind fields =>
    match Assoc.get? name fields with
    | some inner => v.part inner
    | none =>
      if name = "name" then .text kind.name
      else if name = "message" then .text ""
      else .undefined
  | _ => .undefined

/-- Whether a record or an error has a field, listed or not. -/
def has (v : Value) (name : String) : Bool :=
  match v with
  | .record _ fields => (Assoc.get? name fields).isSome
  | .error _ _ fields => (Assoc.get? name fields).isSome || name == "name" || name == "message"
  | _ => false

/-- The fields that a record or an error lists. -/
def fields? : Value → Option (List (String × Value))
  | .record i fields => some (fields.map fun f => (f.1, part (.record i fields) f.2))
  | .error i kind fields =>
    some ((fields.filter fun f => kind.lists f.1).map fun f =>
      (f.1, part (.error i kind fields) f.2))
  | _ => none

/-- Whether a value is a record or an error, and not a list. -/
def isKeyed : Value → Bool
  | .record _ _ => true
  | .error _ _ _ => true
  | .date _ => true
  | _ => false

/-- The items of a list. -/
def items? : Value → Option (List Value)
  | .list i xs => some (xs.map (part (.list i xs)))
  | _ => none

def text? : Value → Option String
  | .text s => some s
  | _ => none

def number? : Value → Option Double
  | .number n => some n
  | _ => none

/-- Whether a value counts as a yes: everything but `undefined`, `null`, `false`, zero, NaN
and the empty text. -/
def isTruthy : Value → Bool
  | .undefined => false
  | .null => false
  | .bool b => b
  | .number n => !n.isZero && !n.isNaN
  | .bigint n => n != 0
  | .text s => s != ""
  | _ => true

def isUndefined : Value → Bool
  | .undefined => true
  | _ => false

def isNull : Value → Bool
  | .null => true
  | _ => false

/-- Whether a value is `undefined` or `null`. -/
def isAbsent : Value → Bool
  | .undefined => true
  | .null => true
  | _ => false

/-- A list without an identity. -/
abbrev ofList (items : List Value) : Value := .list none items

/-- A record without an identity. -/
abbrev ofFields (fields : List (String × Value)) : Value := .record none fields

/-- A text that may be missing. -/
def ofText? (s : Option String) : Value :=
  match s with
  | some s => .text s
  | none => .null

end Value

end AlertRelay
