import AlertRelay.Text.Utf8
import AlertRelay.Number.Reading

/-!
Percent encoding and form encoding.

A byte is written `%XX` with upper-case digits.  Which characters are written so depends on
where the text stands, so `percentEncode` takes the set.  Form encoding writes a space as
`+` and leaves only letters, digits and `*-._` as they are.
-/

namespace AlertRelay.Text

/-- An upper-case digit in base sixteen. -/
def hexDigit (n : Nat) : Char :=
  (Nat.digitChar (n % 16)).toUpper

/-- A byte as a percent sign and two digits. -/
def percentByte (b : Nat) : List Char :=
  ['%', hexDigit (b / 16), hexDigit b]

def isHexDigit (c : Char) : Bool :=
  Numeral.digitValue c < 16

/-- Writes the characters that satisfy `escape`, and all outside ASCII, byte by byte. -/
def percentEncode (escape : Char → Bool) (cs : List Char) : List Char :=
  cs.flatMap fun c =>
    if 0x7F < c.toNat || escape c then (utf8Of c).flatMap percentByte else [c]

/-- The bytes of a text in which `%XX` stands for a byte; a percent sign without two digits
stands for itself. -/
def percentDecode : List Char → List Nat
  | [] => []
  | [c] => utf8Of c
  | [c, d] => utf8Of c ++ utf8Of d
  | c :: x :: y :: rest =>
    if c = '%' ∧ isHexDigit x ∧ isHexDigit y then
      (Numeral.digitValue x * 16 + Numeral.digitValue y) :: percentDecode rest
    else utf8Of c ++ percentDecode (x :: y :: rest)

/-- Whether every percent sign is followed by two digits. -/
def percentWellFormed : List Char → Bool
  | [] => true
  | c :: rest =>
    if c = '%' then
      match rest with
      | x :: y :: more => isHexDigit x && isHexDigit y && percentWellFormed more
      | _ => false
    else percentWellFormed rest

/-- A percent-encoded text read back, if every percent sign is followed by two digits and the
bytes are well formed. -/
def percentRead? (cs : List Char) : Option (List Char) :=
  if percentWellFormed cs then strictUtf8? (percentDecode cs) else none

/-- The characters that form encoding leaves as they are. -/
def isFormPlain (c : Char) : Bool :=
  c.isAlphanum || c == '*' || c == '-' || c == '.' || c == '_'

/-- A text in form encoding. -/
def formEncode (cs : List Char) : List Char :=
  (percentEncode (fun c => !isFormPlain c && c != ' ') cs).map
    fun c => if c = ' ' then '+' else c

/-- A form-encoded text read back. -/
def formDecode (cs : List Char) : List Char :=
  looseUtf8 (percentDecode (cs.map fun c => if c = '+' then ' ' else c))

example : formEncode "{project} é".toList = "%7Bproject%7D+%C3%A9".toList := by decide +kernel

example : formDecode "a%2Bb+%zz".toList = "a+b %zz".toList := by decide +kernel

end AlertRelay.Text
