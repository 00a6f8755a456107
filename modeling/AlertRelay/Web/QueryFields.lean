import AlertRelay.Text.Blank
import AlertRelay.Text.Percent
import AlertRelay.Text.Units
import AlertRelay.Value.Basic

/-!
Queries as records.

Each piece of a query names a field.  A name that is used once has a text for its value, and
one that is used more often the list of its texts.  Forms are written like queries, but a
malformed percent sign in them spoils nothing else.
-/

namespace AlertRelay.Web

open AlertRelay.Text

/-- A text with spaces for its plus signs. -/
def spaced (cs : List Char) : List Char :=
  cs.map fun c => if c = '+' then ' ' else c

/-- A part of a query as it is meant: `+` is a space, and percent signs are read unless they
are malformed. -/
def queryPart (cs : List Char) : String :=
  String.ofList ((percentRead? (spaced cs)).getD (spaced cs))

/-- The low bytes of the units of a character. -/
def lowBytes (c : Char) : List Nat :=
  if c.toNat < 0x10000 then [c.toNat % 256] else [leadUnit c % 256, trailUnit c % 256]

/-- The bytes of a text, with those that well-formed percent signs stand for. -/
def looseBytes : List Char → List Nat
  | [] => []
  | [c] => lowBytes c
  | [c, d] => lowBytes c ++ lowBytes d
  | c :: x :: y :: rest =>
    if c = '%' ∧ isHexDigit x ∧ isHexDigit y then
      (Numeral.digitValue x * 16 + Numeral.digitValue y) :: looseBytes rest
    else lowBytes c ++ looseBytes (x :: y :: rest)

/-- Whether a percent sign in a text is well formed. -/
def hasEscape : List Char → Bool
  | c :: x :: y :: rest => (c == '%' && isHexDigit x && isHexDigit y) || hasEscape (x :: y :: rest)
  | _ => false

/-- A part of a form as it is meant: `+` is a space, and well-formed percent signs are read.
If others stand beside them, the text is taken byte by byte. -/
def formPart (cs : List Char) : String :=
  let cs := spaced cs
  String.ofList (if hasEscape cs then (percentRead? cs).getD (looseUtf8 (looseBytes cs)) else cs)

/-- The name and the text that a piece gives; an empty piece gives nothing. -/
def pieceField? (part : List Char → String) (piece : List Char) : Option (String × String) :=
  if piece.isEmpty then none
  else some (part (piece.takeWhile (· != '=')), part ((piece.dropWhile (· != '=')).drop 1))

/-- Adds a text to what a name already has. -/
def addField (fields : Assoc Value) (field : String × String) : Assoc Value :=
  let v :=
    match fields.get? field.1 with
    | none => Value.text field.2
    | some (.list _ items) => .ofList (items ++ [.text field.2])
    | some first => .ofList [first, .text field.2]
  fields.put field.1 v

/-- The record that pieces stand for. -/
def pieceFields (part : List Char → String) (pieces : List (List Char)) : Value :=
  .ofFields ((pieces.filterMap (pieceField? part)).foldl addField [])

/-- The record that a query stands for. -/
def queryFields (query : List Char) : Value :=
  pieceFields queryPart (splitAt '&' query)

/-- The most pieces of a form that are read. -/
def maxFormPieces : Nat := 1000

/-- The record that a form stands for. -/
def formFields (form : List Char) : Value :=
  pieceFields formPart ((splitAt '&' form).take maxFormPieces)

example :
    (queryFields "a=1+2&b=%zz&a=%C3%A9&c".toList).get "a" matches
      .list none [.text "1 2", .text "é"] := by
  decide +kernel

end AlertRelay.Web
