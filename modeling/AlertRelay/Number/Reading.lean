import AlertRelay.Number.Shortest

/-!
Decimal numerals read as numbers.

`Numeral` is an unsigned decimal numeral, `Numeral.value` the number nearest to it, and
`readNumeral` takes the longest one off the front of a list of characters.
-/

namespace AlertRelay

/-- An unsigned decimal numeral: the digits before and after the point, and the exponent. -/
structure Numeral where
  whole : List Char
  fraction : List Char
  exponent : Int
deriving Repr, DecidableEq

namespace Numeral

def isDigit (c : Char) : Bool :=
  '0' ≤ c && c ≤ '9'

/-- The value of a digit in a base of up to sixteen. -/
def digitValue (c : Char) : Nat :=
  if '0' ≤ c ∧ c ≤ '9' then c.toNat - '0'.toNat
  else if 'a' ≤ c ∧ c ≤ 'f' then c.toNat - 'a'.toNat + 10
  else if 'A' ≤ c ∧ c ≤ 'F' then c.toNat - 'A'.toNat + 10
  else 16

/-- The natural number that digits write in a base. -/
def natOf (base : Nat) (digits : List Char) : Nat :=
  digits.foldl (fun n c => n * base + digitValue c) 0

/-- The number nearest to a numeral.  Numerals so large or so small that no further digit
matters are not expanded. -/
def value (n : Numeral) : Double :=
  let mantissa := natOf 10 (n.whole ++ n.fraction)
  let scale := n.exponent - n.fraction.length
  if mantissa = 0 then .finite 0
  else
    let place := scale + (Double.digitsOf mantissa).length
    if 400 < place then .posInf
    else if place < -400 then .finite 0
    else Double.round ((mantissa : Rat) * Double.tenPow scale)

/-- The digits at the front, and the rest. -/
def takeDigits (cs : List Char) : List Char × List Char :=
  (cs.takeWhile isDigit, cs.dropWhile isDigit)

/-- An exponent mark with its digits at the front; `none` if there is no complete one. -/
def takeExponent? (cs : List Char) : Option (Int × List Char) :=
  match cs with
  | e :: rest =>
    if e = 'e' ∨ e = 'E' then
      let (negative, rest) :=
        match rest with
        | '-' :: r => (true, r)
        | '+' :: r => (false, r)
        | r => (false, r)
      let (digits, rest) := takeDigits rest
      if digits.isEmpty then none
      else
        let size : Int := natOf 10 digits
        some (if negative then -size else size, rest)
    else none
  | [] => none

/-- The numeral at the front: digits, a point with digits, an exponent.  A point without
digits on either side is refused. -/
def take? (cs : List Char) : Option (Numeral × List Char) :=
  let (whole, rest) := takeDigits cs
  let (fraction, rest) :=
    match rest with
    | '.' :: r => takeDigits r
    | r => ([], r)
  if whole.isEmpty && fraction.isEmpty then none
  else
    match takeExponent? rest with
    | some (exponent, rest) => some (⟨whole, fraction, exponent⟩, rest)
    | none => some (⟨whole, fraction, 0⟩, rest)

example : (take? "12.5e1x".toList).map (fun r => r.1.value) = some 125 := by decide +kernel

example : (take? ".".toList) = none := by decide +kernel

end Numeral

end AlertRelay
