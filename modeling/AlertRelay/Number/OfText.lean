import AlertRelay.Number.Reading
import AlertRelay.Text.Blank

/-!
Texts that stand for numbers.

White space around the number does not count, and nothing but white space is zero.  A number
is written in decimal, or without a sign in another base after `0x`, `0o` or `0b`.  Any other
text is not a number.
-/

namespace AlertRelay.Double

open AlertRelay.Text

/-- Digits of a base after its mark. -/
def ofBaseDigits (base : Nat) (digits : List Char) : Double :=
  if !digits.isEmpty && digits.all (Numeral.digitValue · < base) then
    ofNat (Numeral.natOf base digits)
  else .nan

/-- An unsigned decimal, or the name of infinity. -/
def ofUnsigned (cs : List Char) : Double :=
  if cs = "Infinity".toList then .posInf
  else
    match Numeral.take? cs with
    | some (n, []) => n.value
    | _ => .nan

/-- The number that a text stands for. -/
def ofText (s : String) : Double :=
  match trimBy isBlank s.toList with
  | [] => 0
  | '0' :: 'x' :: digits => ofBaseDigits 16 digits
  | '0' :: 'X' :: digits => ofBaseDigits 16 digits
  | '0' :: 'o' :: digits => ofBaseDigits 8 digits
  | '0' :: 'O' :: digits => ofBaseDigits 8 digits
  | '0' :: 'b' :: digits => ofBaseDigits 2 digits
  | '0' :: 'B' :: digits => ofBaseDigits 2 digits
  | '-' :: rest => (ofUnsigned rest).neg
  | '+' :: rest => ofUnsigned rest
  | cs => ofUnsigned cs

example : ofText " 1e3\n" = 1000 := by decide +kernel

example : ofText "" = 0 := by decide +kernel

example : ofText "1_000" = .nan := by decide +kernel

end AlertRelay.Double
