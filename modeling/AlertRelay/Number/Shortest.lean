import AlertRelay.Number.Double

/-!
The decimal text of a number.

`Double.text` writes the fewest digits that read back as the same number, and of those the
nearest to it.  Whole numbers below `10 ^ 21` and fractions down to `10 ^ -6` are written
out by position, all others with an exponent.  `Double.fixedText` writes two decimal places.
-/

namespace AlertRelay

namespace Double

/-- Ten to an integer power. -/
def tenPow (e : Int) : Rat :=
  match e with
  | .ofNat n => (Nat.pow 10 n : Rat)
  | .negSucc n => mkRat 1 (Nat.pow 10 (n + 1))

/-- The decimal digits of a natural number, most significant first. -/
def digitsOf (n : Nat) : List Char :=
  Nat.toDigits 10 n

/-- The place of the leading digit of `q > 0`: `10 ^ (place - 1) ≤ q < 10 ^ place`. -/
def leadingPlace (q : Rat) : Int :=
  let guess : Int := ((digitsOf q.num.natAbs).length : Int) - ((digitsOf q.den).length : Int)
  if tenPow guess ≤ q then guess + 1 else guess

/-- A positive decimal number `0.d₁d₂… · 10 ^ place`. -/
structure Scientific where
  digits : List Char
  place : Int
deriving Repr, DecidableEq

/-- The number `n · 10 ^ scale` without trailing zero digits. -/
def Scientific.ofScaled (n : Nat) (scale : Int) : Scientific :=
  let all := digitsOf n
  ⟨(all.reverse.dropWhile (· == '0')).reverse, all.length + scale⟩

/-- The better of the two neighbours of `q > 0` on the grid of multiples of `10 ^ scale`,
among those that round to the number `q` itself; of two at one distance, the even one. -/
def gridNeighbour? (q : Rat) (scale : Int) : Option Nat :=
  let unit := tenPow scale
  let below := (q / unit).floor.toNat
  let reads (n : Nat) : Bool := round ((n : Rat) * unit) == .finite q
  let down := q - (below : Rat) * unit
  let up := ((below + 1 : Nat) : Rat) * unit - q
  let preferUp := decide (up < down) || (up == down && below % 2 == 1)
  match reads below, reads (below + 1) with
  | true, true => some (if preferUp then below + 1 else below)
  | true, false => some below
  | false, true => some (below + 1)
  | false, false => none

/-- The shortest decimal that reads back as `q > 0`, looking at `count` digits and then at
one more as long as `more` allows. -/
def shortestFrom (q : Rat) (place : Int) (count : Nat) : Nat → Scientific
  | 0 => Scientific.ofScaled (q / tenPow (place - count)).floor.toNat (place - count)
  | more + 1 =>
    match gridNeighbour? q (place - count) with
    | some n => Scientific.ofScaled n (place - count)
    | none => shortestFrom q place (count + 1) more

/-- The shortest decimal that reads back as `q > 0`; seventeen digits always do. -/
def shortest (q : Rat) : Scientific :=
  shortestFrom q (leadingPlace q) 1 17

/-- Where the positional form ends and what an exponent looks like: the first place that is
written with an exponent, and the last small one that is not. -/
structure Layout where
  firstLargePlace : Int
  lastSmallPlace : Int

/-- Numbers from `10 ^ 21` on and below `10 ^ -6` are written with an exponent. -/
def layout : Layout := ⟨22, -5⟩

/-- Writes a positive decimal in the given layout. -/
def Scientific.text (d : Scientific) (form : Layout) : String :=
  let k : Int := d.digits.length
  if k ≤ d.place ∧ d.place < form.firstLargePlace then
    String.ofList (d.digits ++ List.replicate (d.place - k).toNat '0')
  else if 0 < d.place ∧ d.place < form.firstLargePlace then
    String.ofList
      (d.digits.take d.place.toNat ++ '.' :: d.digits.drop d.place.toNat)
  else if form.lastSmallPlace ≤ d.place ∧ d.place ≤ 0 then
    String.ofList ("0.".toList ++ List.replicate (-d.place).toNat '0' ++ d.digits)
  else
    let e := d.place - 1
    let exponent := (if e < 0 then '-' else '+') :: digitsOf e.natAbs
    match d.digits with
    | [] => "0"
    | [c] => String.ofList (c :: 'e' :: exponent)
    | c :: rest => String.ofList (c :: '.' :: rest ++ 'e' :: exponent)

/-- The text of a number. -/
def text : Double → String
  | .nan => "NaN"
  | .posInf => "Infinity"
  | .negInf => "-Infinity"
  | .finite q =>
    if q = 0 then "0"
    else if q < 0 then "-" ++ (shortest (-q)).text layout
    else (shortest q).text layout

/-- A non-negative amount of hundredths, with its point. -/
def hundredthsText (n : Nat) : String :=
  let cents := n % 100
  String.ofList
    (digitsOf (n / 100) ++ '.' :: digitsOf (cents / 10) ++ digitsOf (cents % 10))

/-- The text of a number with two decimal places: the nearest hundredth, a tie going away
from zero, and a sign for every number below zero.  Numbers from `10 ^ 21` on, and those
that are not finite, have their ordinary text. -/
def fixedText (x : Double) : String :=
  match x with
  | .finite q =>
    let size := if q < 0 then -q else q
    if tenPow 21 ≤ size then x.text
    else
      let n := (size * 100 + mkRat 1 2).floor.toNat
      (if q < 0 then "-" else "") ++ hundredthsText n
  | _ => x.text

example : text (round (mkRat 1 10)) = "0.1" := by decide +kernel

example : text (add (round (mkRat 1 10)) (round (mkRat 2 10))) = "0.30000000000000004" := by
  decide +kernel

example : text (ofNat (10 ^ 21)) = "1e+21" := by decide +kernel

example : text (round (tenPow (-7))) = "1e-7" := by decide +kernel

example : text (ofNat 123456789012345680000) = "123456789012345680000" := by decide +kernel

example : fixedText (round (mkRat (-1) 1000)) = "-0.00" := by decide +kernel

end Double

end AlertRelay
