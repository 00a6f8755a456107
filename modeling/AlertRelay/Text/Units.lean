/-!
Text measured in sixteen-bit units.

A character above `U+FFFF` counts as two units, every other one as a single unit.  `cut`
takes a number of units off the front; a cut through the middle of a character keeps the
first half of it.
-/

namespace AlertRelay.Text

/-- The number of sixteen-bit units of a character. -/
def unitsOf (c : Char) : Nat :=
  if c.toNat < 0x10000 then 1 else 2

/-- The number of sixteen-bit units of a text. -/
def unitCount : List Char → Nat
  | [] => 0
  | c :: rest => unitsOf c + unitCount rest

/-- The length of a text in sixteen-bit units. -/
def units (s : String) : Nat :=
  unitCount s.toList

/-- The first half of a character that takes two units. -/
def leadUnit (c : Char) : Nat :=
  0xD800 + (c.toNat - 0x10000) / 0x400

/-- The second half of a character that takes two units. -/
def trailUnit (c : Char) : Nat :=
  0xDC00 + (c.toNat - 0x10000) % 0x400

/-- The first `n` units: the characters that fit, and the first half of the next one if a
single unit is left for it. -/
def cut (n : Nat) : List Char → List Char × Option Nat
  | [] => ([], none)
  | c :: rest =>
    if unitsOf c ≤ n then
      let (kept, half) := cut (n - unitsOf c) rest
      (c :: kept, half)
    else if n = 0 then ([], none)
    else ([], some (leadUnit c))

theorem unitCount_append (cs ds : List Char) :
    unitCount (cs ++ ds) = unitCount cs + unitCount ds := by
  induction cs with
  | nil => exact (Nat.zero_add _).symm
  | cons c rest ih => rw [List.cons_append, unitCount, unitCount, ih, Nat.add_assoc]

/-- What is kept is a first part of the text. -/
theorem cut_isPrefix (n : Nat) (cs : List Char) : (cut n cs).1 <+: cs := by
  induction cs generalizing n with
  | nil => simp [cut]
  | cons c rest ih =>
    unfold cut
    split
    · simpa using ih (n - unitsOf c)
    · split <;> simp

example : units "a😀b" = 4 := by decide +kernel

example : cut 2 "a😀b".toList = (['a'], some 0xD83D) := by decide +kernel

end AlertRelay.Text
