/-!
Binary64 numbers as exact values.

A `Double` is a rational number that binary64 can hold, one of the two infinities, or
not-a-number.  Every operation computes the exact rational result and rounds it once,
to the nearest representable value with ties to the even significand.  The sign of zero
is not kept: no operation of this library can observe it.
-/

namespace AlertRelay

/-- A binary64 number.  Values made by `Double.round` are representable. -/
inductive Double where
  | nan
  | negInf
  | posInf
  | finite (value : Rat)
deriving DecidableEq, Repr

namespace Double

/-- Two to an integer power. -/
def twoPow (e : Int) : Rat :=
  match e with
  | .ofNat n => (Nat.pow 2 n : Rat)
  | .negSucc n => mkRat 1 (Nat.pow 2 (n + 1))

/-- The exponent `e` with `2 ^ e ≤ |q| < 2 ^ (e + 1)`, for `q ≠ 0`. -/
def exponentOf (q : Rat) : Int :=
  let n := q.num.natAbs
  let d := q.den
  let guess : Int := (n.log2 : Int) - (d.log2 : Int)
  if guess < 0 then
    if n * Nat.pow 2 guess.natAbs < d then guess - 1 else guess
  else
    if n < d * Nat.pow 2 guess.natAbs then guess - 1 else guess

/-- The nearest integer; a value midway between two goes to the even one. -/
def nearestEven (q : Rat) : Int :=
  let below := q.floor
  let rest := q - below
  if rest < mkRat 1 2 then below
  else if mkRat 1 2 < rest then below + 1
  else if below % 2 = 0 then below
  else below + 1

/-- The spacing of representable values around `q`: 52 places below the leading binary
digit, and never under `2 ^ -1074`. -/
def spacing (q : Rat) : Rat :=
  twoPow (max (exponentOf q - 52) (-1074))

/-- The representable number nearest to `q`. -/
def round (q : Rat) : Double :=
  if q = 0 then .finite 0
  else
    let unit := spacing q
    let nearest := (nearestEven (q / unit) : Rat) * unit
    if twoPow 1024 ≤ nearest then .posInf
    else if nearest ≤ -twoPow 1024 then .negInf
    else .finite nearest

/-- The number nearest to an integer. -/
def ofInt (n : Int) : Double :=
  round (n : Rat)

/-- The number nearest to a natural number. -/
def ofNat (n : Nat) : Double :=
  ofInt n

instance : OfNat Double n := ⟨ofNat n⟩

instance : Inhabited Double := ⟨.finite 0⟩

/-- Zero is the number that is neither infinite nor undefined and has value `0`. -/
def isZero : Double → Bool
  | .finite q => q == 0
  | _ => false

def isNaN : Double → Bool
  | .nan => true
  | _ => false

def isFinite : Double → Bool
  | .finite _ => true
  | _ => false

/-- Whether the number is a whole number. -/
def isInteger : Double → Bool
  | .finite q => q.den == 1
  | _ => false

/-- The whole number that a `Double` is, if it is one. -/
def toInt? : Double → Option Int
  | .finite q => if q.den = 1 then some q.num else none
  | _ => none

def neg : Double → Double
  | .nan => .nan
  | .negInf => .posInf
  | .posInf => .negInf
  | .finite q => .finite (-q)

def add : Double → Double → Double
  | .nan, _ => .nan
  | _, .nan => .nan
  | .posInf, .negInf => .nan
  | .negInf, .posInf => .nan
  | .posInf, _ => .posInf
  | _, .posInf => .posInf
  | .negInf, _ => .negInf
  | _, .negInf => .negInf
  | .finite a, .finite b => round (a + b)

/-- The infinity, or NaN, that a product with an infinite factor has. -/
def infiniteTimes (positive : Bool) (q : Rat) : Double :=
  if q = 0 then .nan
  else if (0 < q) == positive then .posInf
  else .negInf

def mul : Double → Double → Double
  | .nan, _ => .nan
  | _, .nan => .nan
  | .finite a, .finite b => round (a * b)
  | .posInf, .finite q => infiniteTimes true q
  | .finite q, .posInf => infiniteTimes true q
  | .negInf, .finite q => infiniteTimes false q
  | .finite q, .negInf => infiniteTimes false q
  | .posInf, .posInf => .posInf
  | .negInf, .negInf => .posInf
  | .posInf, .negInf => .negInf
  | .negInf, .posInf => .negInf

/-- The quotient by a positive whole number. -/
def divNat (x : Double) (d : Nat) : Double :=
  match x with
  | .finite q => round (q / (d : Rat))
  | other => other

/-- Strict order; NaN is below and above nothing. -/
def lt : Double → Double → Bool
  | .nan, _ => false
  | _, .nan => false
  | .finite a, .finite b => decide (a < b)
  | .negInf, .negInf => false
  | .negInf, _ => true
  | _, .negInf => false
  | .posInf, _ => false
  | _, .posInf => true

/-- Order; NaN is comparable with nothing, itself included. -/
def le : Double → Double → Bool
  | .nan, _ => false
  | _, .nan => false
  | .finite a, .finite b => decide (a ≤ b)
  | .negInf, _ => true
  | _, .negInf => false
  | _, .posInf => true
  | .posInf, _ => false

/-- The larger of two numbers; NaN if one of them is. -/
def max : Double → Double → Double
  | .nan, _ => .nan
  | _, .nan => .nan
  | a, b => if lt a b then b else a

/-- The nearest whole number; a value midway between two goes to the larger one. -/
def roundHalfUp : Double → Double
  | .finite q => ofInt (q + mkRat 1 2).floor
  | other => other

/-- The whole part, towards zero. -/
def truncate : Double → Double
  | .finite q => if q < 0 then ofInt (-(-q).floor) else ofInt q.floor
  | other => other

@[simp] theorem lt_irrefl (x : Double) : lt x x = false := by
  cases x with
  | finite q => exact decide_eq_false (Rat.lt_irrefl (a := q))
  | _ => rfl

example : round (mkRat 1 3) ≠ .finite (mkRat 1 3) := by decide +kernel

example : ofNat 9007199254740993 = .finite 9007199254740992 := by decide +kernel

example : roundHalfUp (round (mkRat (-5) 2)) = .finite (-2) := by decide +kernel

end Double

end AlertRelay
