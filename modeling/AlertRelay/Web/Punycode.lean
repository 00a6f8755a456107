import AlertRelay.Number.Reading

/-!
Labels of domain names that encode other characters in letters, digits and hyphens.

Such a label has the characters of ASCII first, and after its last hyphen a series of numbers
that tell where to insert which other characters.  Each number is written with the lowest digit
first in base 36, and how many digits it takes depends on the numbers before it.
-/

namespace AlertRelay.Web.Punycode

/-- The value of a digit in base 36. -/
def digit? (c : Char) : Option Nat :=
  if 'a' ≤ c ∧ c ≤ 'z' then some (c.toNat - 'a'.toNat)
  else if Numeral.isDigit c then some (c.toNat - '0'.toNat + 26)
  else none

/-- The least value at which a digit is not the last of its number. -/
def threshold (place bias : Nat) : Nat :=
  max 1 (min 26 (place - bias))

/-- Numbers beyond this are not read. -/
def limit : Nat := 0x7FFFFFFF

/-- Reads a number that is added to `n`; its digits count `weight` times as much as the lowest.
The rest of the text is given too. -/
def readNumber? (bias : Nat) : Nat → Nat → Nat → List Char → Option (Nat × List Char)
  | _, _, _, [] => none
  | place, weight, n, c :: rest =>
    match digit? c with
    | none => none
    | some d =>
      let t := threshold place bias
      if (limit - n) / weight < d then none
      else if d < t then some (n + d * weight, rest)
      else if limit / (36 - t) < weight then none
      else readNumber? bias (place + 36) (weight * (36 - t)) (n + d * weight) rest

theorem readNumber?_length {bias place weight n : Nat} {cs rest : List Char} {m : Nat}
    (h : readNumber? bias place weight n cs = some (m, rest)) : rest.length < cs.length := by
  induction cs generalizing place weight n with
  | nil => simp [readNumber?] at h
  | cons c cs ih =>
    unfold readNumber? at h
    split at h
    · cases h
    · dsimp only at h
      split at h
      · cases h
      · split at h
        · cases h
          simp
        · split at h
          · cases h
          · have := ih h
            simp only [List.length_cons]
            omega

/-- Divides by 35 until at most 455 is left; each time counts 36. -/
def damped (delta : Nat) : Nat × Nat :=
  if 455 < delta then
    let (left, count) := damped (delta / 35)
    (left, count + 36)
  else (delta, 0)
termination_by delta
decreasing_by omega

/-- The bias for the number after one of size `delta`, when `count` characters are there. -/
def adapted (delta count : Nat) (first : Bool) : Nat :=
  let delta := if first then delta / 700 else delta / 2
  let (left, sum) := damped (delta + delta / count)
  sum + 36 * left / (left + 38)

/-- Inserts characters as numbers tell: `n` is the last character inserted, and `i` the place
behind it. -/
def insertAll (bias n i : Nat) (done : List Char) (cs : List Char) : Option (List Char) :=
  match cs with
  | [] => some done
  | c :: rest =>
    match _h : readNumber? bias 36 1 i (c :: rest) with
    | none => none
    | some (m, more) =>
      let count := done.length + 1
      let n := n + m / count
      if n.isValidChar then
        insertAll (adapted (m - i) count (i == 0)) n (m % count + 1)
          (done.insertIdx (m % count) (Char.ofNat n)) more
      else none
termination_by cs.length
decreasing_by exact readNumber?_length ‹_›

/-- A text split at its last hyphen; without one, all of it stands behind. -/
def splitLastHyphen (cs : List Char) : List Char × List Char :=
  match cs.reverse.dropWhile (· != '-') with
  | [] => ([], cs)
  | _ :: before => (before.reverse, (cs.reverse.takeWhile (· != '-')).reverse)

/-- The characters that a label encodes. -/
def decode? (cs : List Char) : Option (List Char) :=
  let (plain, numbers) := splitLastHyphen cs
  insertAll 72 128 0 plain numbers

example : (decode? "mnchen-3ya".toList).map String.ofList = some "münchen" := by
  decide +kernel

example : decode? "0".toList = none := by decide +kernel

end AlertRelay.Web.Punycode
