import AlertRelay.Number.Double

/-!
The order of binary64 numbers.

Not-a-number is comparable with nothing; the others are ordered as their values are, between
the two infinities.  These are the rules that times and deadlines are compared by.
-/

namespace AlertRelay

namespace Double

theorem le_refl_of_isFinite {a : Double} (ha : a.isFinite = true) : a.le a = true := by
  cases a with
  | finite q => exact decide_eq_true (Rat.le_refl)
  | _ => cases ha

theorem ne_nan_of_isFinite {a : Double} (ha : a.isFinite = true) : a ≠ .nan := by
  intro hnan
  rw [hnan] at ha
  cases ha

theorem le_trans {a b c : Double} (hab : a.le b = true) (hbc : b.le c = true) :
    a.le c = true := by
  cases a <;> cases b <;> cases c <;> simp only [le, decide_eq_true_eq, reduceCtorEq] at *
  exact Rat.le_trans hab hbc

/-- Of two numbers one is below the other, or not above it. -/
theorem lt_eq_not_le {a b : Double} (ha : a ≠ .nan) (hb : b ≠ .nan) : a.lt b = !b.le a := by
  cases a <;> cases b <;> simp only [lt, le, ne_eq, not_true_eq_false, reduceCtorEq,
    Bool.not_true, Bool.not_false] at *
  rw [← decide_not, decide_eq_decide]
  exact Rat.not_le.symm

/-- What is above a number is above every number that is not larger. -/
theorem lt_of_le_of_lt {a b c : Double} (hab : a.le b = true) (hbc : b.lt c = true) :
    a.lt c = true := by
  cases a <;> cases b <;> cases c <;> simp only [le, lt, decide_eq_true_eq, reduceCtorEq] at *
  exact Std.lt_of_le_of_lt hab hbc

/-- Only to another infinity, or to no number, can a finite time not be added. -/
theorem add_ne_nan {a b : Double} (ha : a.isFinite = true) (hb : b ≠ .nan) : a.add b ≠ .nan := by
  cases a with
  | finite p =>
      cases b with
      | nan => exact absurd rfl hb
      | negInf => simp [add]
      | posInf => simp [add]
      | finite q =>
          simp only [add, round]
          split
          · simp
          · split
            · simp
            · split <;> simp
  | _ => cases ha

end Double

end AlertRelay
