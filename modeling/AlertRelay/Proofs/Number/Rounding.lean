import AlertRelay.Proofs.Number.Order
import Mathlib.Algebra.Order.Field.Power
import Mathlib.Algebra.Order.Ring.Rat
import Mathlib.Tactic.Linarith
import Mathlib.Tactic.Positivity
import Mathlib.Tactic.Ring

/-!
Rounding of binary64 numbers.

A number that binary64 can hold is a whole multiple of a power of two, of not more than 53 binary
digits (`Binary`).  Rounding leaves such numbers as they are (`nearest_of_binary`), and what is not
above such a number is not rounded to above it (`round_le`).  Hence a sum may be
compared, rounded as it is, with a number that binary64 can hold (`lt_of_lt_add`).
-/

namespace AlertRelay

namespace Double

/-- Whether binary64 can hold a number, and it is no infinity. -/
def isExact : Double → Bool
  | .finite q => round q == .finite q
  | _ => false

/-- A whole multiple of a power of two, of not more than 53 binary digits. -/
def Binary (q : ℚ) : Prop :=
  ∃ k e : ℤ, |k| ≤ 2 ^ 53 ∧ -1074 ≤ e ∧ q = k * 2 ^ e

theorem twoPow_eq_zpow (e : ℤ) : twoPow e = (2 : ℚ) ^ e := by
  cases e with
  | ofNat n =>
      simp only [twoPow, Int.ofNat_eq_natCast, zpow_natCast, Nat.pow_eq, Nat.cast_pow,
        Nat.cast_ofNat]
  | negSucc n =>
      simp only [twoPow, zpow_negSucc, Rat.mkRat_eq_div, Nat.pow_eq, Nat.cast_pow,
        Nat.cast_ofNat, Int.cast_one, one_div]

theorem isFinite_of_isExact {x : Double} (h : x.isExact = true) : x.isFinite = true := by
  cases x with
  | finite q => rfl
  | _ => cases h

theorem exists_eq_finite_of_isFinite {x : Double} (h : x.isFinite = true) :
    ∃ q, x = .finite q := by
  cases x with
  | finite q => exact ⟨q, rfl⟩
  | _ => cases h

/-- A number is rounded to a whole number that is not above any whole number above it. -/
theorem nearestEven_le {q : ℚ} {k : ℤ} (h : q ≤ k) : nearestEven q ≤ k := by
  have hfloor : q.floor ≤ k := by
    have hle : (q.floor : ℚ) ≤ k := (Rat.floor_le q).trans h
    exact_mod_cast hle
  unfold nearestEven
  by_cases heq : q.floor = k
  · have hrest : q - q.floor < mkRat 1 2 := by
      have hle : q ≤ q.floor := by rwa [heq]
      have hhalf : (0 : ℚ) < mkRat 1 2 := by norm_num [Rat.mkRat_eq_div]
      linarith
    simp only [hrest, if_true]
    exact hfloor
  · have hlt : q.floor + 1 ≤ k := by omega
    dsimp only
    split_ifs <;> omega

/-- A number is rounded to a whole number that is not below any whole number below it. -/
theorem le_nearestEven {q : ℚ} {k : ℤ} (h : k ≤ q) : k ≤ nearestEven q := by
  have hfloor : k ≤ q.floor := Rat.le_floor_iff.mpr h
  unfold nearestEven
  dsimp only
  split_ifs <;> omega

/-- A whole number is rounded to itself. -/
theorem nearestEven_intCast (k : ℤ) : nearestEven k = k :=
  le_antisymm (nearestEven_le le_rfl) (le_nearestEven le_rfl)

/-- The exponent that is guessed from the binary lengths of the numerator and the denominator. -/
def guessedExponent (q : ℚ) : ℤ :=
  (q.num.natAbs.log2 : ℤ) - (q.den.log2 : ℤ)

theorem abs_eq_natAbs_div (q : ℚ) : |q| = (q.num.natAbs : ℚ) / q.den := by
  have hden : |(q.den : ℚ)| = q.den := abs_of_nonneg (Nat.cast_nonneg _)
  calc |q| = |(q.num : ℚ) / q.den| := by rw [Rat.num_div_den]
    _ = (q.num.natAbs : ℚ) / q.den := by rw [abs_div, hden, Nat.cast_natAbs, Int.cast_abs]

/-- The guess is right, or too large by one. -/
theorem exponentOf_eq (q : ℚ) : exponentOf q =
    if |q| < 2 ^ guessedExponent q then guessedExponent q - 1 else guessedExponent q := by
  have hden : (0 : ℚ) < q.den := Nat.cast_pos.mpr q.den_pos
  have hguess : exponentOf q = if guessedExponent q < 0 then
      if q.num.natAbs * 2 ^ (guessedExponent q).natAbs < q.den then guessedExponent q - 1
        else guessedExponent q
      else if q.num.natAbs < q.den * 2 ^ (guessedExponent q).natAbs then guessedExponent q - 1
        else guessedExponent q := rfl
  rw [hguess, abs_eq_natAbs_div]
  by_cases hnegative : guessedExponent q < 0
  · obtain ⟨k, hk⟩ := Int.exists_eq_neg_ofNat hnegative.le
    have hpow : (0 : ℚ) < 2 ^ k := by positivity
    have htest : q.num.natAbs * 2 ^ k < q.den ↔
        (q.num.natAbs : ℚ) / q.den < 2 ^ guessedExponent q := by
      rw [hk, zpow_neg, zpow_natCast, div_lt_iff₀ hden, ← div_eq_inv_mul, lt_div_iff₀ hpow]
      exact_mod_cast Iff.rfl
    have habs : (guessedExponent q).natAbs = k := by omega
    simp only [hnegative, if_true, habs, htest]
  · obtain ⟨k, hk⟩ := Int.eq_ofNat_of_zero_le (not_lt.mp hnegative)
    have htest : q.num.natAbs < q.den * 2 ^ k ↔
        (q.num.natAbs : ℚ) / q.den < 2 ^ guessedExponent q := by
      rw [hk, zpow_natCast, div_lt_iff₀ hden, mul_comm]
      exact_mod_cast Iff.rfl
    have habs : (guessedExponent q).natAbs = k := by omega
    simp only [hnegative, if_false, habs, htest]

/-- The exponent of a number is that of the power of two below it. -/
theorem exponentOf_spec {q : ℚ} (hq : q ≠ 0) :
    (2 : ℚ) ^ exponentOf q ≤ |q| ∧ |q| < 2 ^ (exponentOf q + 1) := by
  have hnum : q.num.natAbs ≠ 0 := by simpa using hq
  have hden : (0 : ℚ) < q.den := Nat.cast_pos.mpr q.den_pos
  -- The lengths of the numerator and the denominator bound their quotient.
  have hn : (2 : ℚ) ^ q.num.natAbs.log2 ≤ q.num.natAbs ∧
      (q.num.natAbs : ℚ) < 2 ^ (q.num.natAbs.log2 + 1) :=
    ⟨by exact_mod_cast Nat.log2_self_le hnum, by exact_mod_cast Nat.lt_log2_self⟩
  have hd : (2 : ℚ) ^ q.den.log2 ≤ q.den ∧ (q.den : ℚ) < 2 ^ (q.den.log2 + 1) :=
    ⟨by exact_mod_cast Nat.log2_self_le q.den_nz, by exact_mod_cast Nat.lt_log2_self⟩
  have hlower : (2 : ℚ) ^ (guessedExponent q - 1) ≤ |q| := by
    rw [abs_eq_natAbs_div, le_div_iff₀ hden]
    calc (2 : ℚ) ^ (guessedExponent q - 1) * q.den
        ≤ 2 ^ (guessedExponent q - 1) * 2 ^ (q.den.log2 + 1) := by
          exact mul_le_mul_of_nonneg_left hd.2.le (by positivity)
      _ = 2 ^ q.num.natAbs.log2 := by
          rw [← zpow_natCast, ← zpow_natCast, ← zpow_add₀ two_ne_zero]
          congr 1
          simp only [guessedExponent]
          push_cast
          ring
      _ ≤ q.num.natAbs := hn.1
  have hupper : |q| < 2 ^ (guessedExponent q + 1) := by
    rw [abs_eq_natAbs_div, div_lt_iff₀ hden]
    calc (q.num.natAbs : ℚ) < 2 ^ (q.num.natAbs.log2 + 1) := hn.2
      _ = 2 ^ (guessedExponent q + 1) * 2 ^ q.den.log2 := by
          rw [← zpow_natCast, ← zpow_natCast, ← zpow_add₀ two_ne_zero]
          congr 1
          simp only [guessedExponent]
          push_cast
          ring
      _ ≤ 2 ^ (guessedExponent q + 1) * q.den := by
          exact mul_le_mul_of_nonneg_left hd.1 (by positivity)
  rw [exponentOf_eq]
  by_cases hbelow : |q| < 2 ^ guessedExponent q
  · rw [if_pos hbelow, sub_add_cancel]
    exact ⟨hlower, hbelow⟩
  · rw [if_neg hbelow]
    exact ⟨not_lt.mp hbelow, hupper⟩

/-- The exponent of the spacing around a number. -/
def spacingExponent (q : ℚ) : ℤ :=
  Max.max (exponentOf q - 52) (-1074)

theorem spacing_eq_zpow (q : ℚ) : spacing q = 2 ^ spacingExponent q :=
  twoPow_eq_zpow _

theorem spacing_pos (q : ℚ) : 0 < spacing q := by
  rw [spacing_eq_zpow]
  positivity

/-- What a number other than zero is rounded to, unless that is too large. -/
def nearest (q : ℚ) : ℚ :=
  nearestEven (q / spacing q) * spacing q

/-- Rounding as a choice between the nearest number and the infinities. -/
theorem round_of_ne_zero {q : ℚ} (hq : q ≠ 0) : round q =
    if (2 : ℚ) ^ (1024 : ℤ) ≤ nearest q then .posInf
    else if nearest q ≤ -2 ^ (1024 : ℤ) then .negInf else .finite (nearest q) := by
  simp only [round, if_neg hq, twoPow_eq_zpow]
  rfl

/-- A number that binary64 can hold is a whole multiple of every spacing that is not larger than
its own power of two. -/
theorem exists_eq_mul_zpow {k e f : ℤ} (h : f ≤ e) :
    ∃ n : ℤ, (k : ℚ) * 2 ^ e = n * 2 ^ f := by
  obtain ⟨d, hd⟩ := Int.eq_ofNat_of_zero_le (sub_nonneg.mpr h)
  refine ⟨k * 2 ^ d, ?_⟩
  have he : e = d + f := by omega
  rw [he, zpow_add₀ two_ne_zero, zpow_natCast]
  push_cast
  ring

/-- What is not above a whole multiple of its spacing is not rounded to above it. -/
theorem nearest_le {q : ℚ} {n : ℤ} (h : q ≤ n * spacing q) : nearest q ≤ n * spacing q := by
  have hquotient : q / spacing q ≤ n := (div_le_iff₀ (spacing_pos q)).mpr h
  have hcast : (nearestEven (q / spacing q) : ℚ) ≤ n := by exact_mod_cast nearestEven_le hquotient
  exact mul_le_mul_of_nonneg_right hcast (spacing_pos q).le

/-- A whole multiple of its own spacing stays as it is. -/
theorem nearest_eq_self {q : ℚ} {n : ℤ} (h : q = n * spacing q) : nearest q = q := by
  have hquotient : q / spacing q = n := (div_eq_iff (spacing_pos q).ne').mpr h
  rw [nearest, hquotient, nearestEven_intCast]
  exact h.symm

/-- A number that binary64 can hold is a whole multiple of the spacing around another one, unless it
is not larger than the power of two below the size of that; and this is such a multiple. -/
theorem Binary.multiple_or_abs_le {t : ℚ} (ht : Binary t) (q : ℚ) :
    (∃ n : ℤ, t = n * spacing q) ∨
      |t| ≤ 2 ^ exponentOf q ∧ (2 : ℚ) ^ exponentOf q = ((2 ^ 52 : ℤ) : ℚ) * spacing q := by
  obtain ⟨k, e, hk, he, rfl⟩ := ht
  by_cases hfine : spacingExponent q ≤ e
  · refine Or.inl ?_
    obtain ⟨n, hn⟩ := exists_eq_mul_zpow (k := k) hfine
    rw [spacing_eq_zpow]
    exact ⟨n, hn⟩
  · have hexponent : spacingExponent q = exponentOf q - 52 := by
      unfold spacingExponent at hfine ⊢
      omega
    have hkcast : |(k : ℚ)| ≤ 2 ^ (53 : ℤ) := by exact_mod_cast hk
    have hpos : |(2 : ℚ) ^ e| = 2 ^ e := abs_of_pos (by positivity)
    refine Or.inr ⟨?_, ?_⟩
    · calc |(k : ℚ) * 2 ^ e| = |(k : ℚ)| * 2 ^ e := by rw [abs_mul, hpos]
        _ ≤ 2 ^ (53 : ℤ) * 2 ^ e := mul_le_mul_of_nonneg_right hkcast (by positivity)
        _ = 2 ^ (53 + e) := by rw [zpow_add₀ two_ne_zero]
        _ ≤ 2 ^ exponentOf q := zpow_le_zpow_right₀ one_le_two (by omega)
    · calc (2 : ℚ) ^ exponentOf q = 2 ^ ((52 : ℤ) + (exponentOf q - 52)) := by
            rw [add_sub_cancel]
        _ = 2 ^ (52 : ℤ) * 2 ^ (exponentOf q - 52) := zpow_add₀ two_ne_zero _ _
        _ = ((2 ^ 52 : ℤ) : ℚ) * spacing q := by
            rw [spacing_eq_zpow, hexponent]
            norm_cast

/-- What is not above a number that binary64 can hold is not rounded to above it. -/
theorem nearest_le_of_binary {q t : ℚ} (hq : q ≠ 0) (ht : Binary t) (h : q ≤ t) :
    nearest q ≤ t := by
  rcases ht.multiple_or_abs_le q with ⟨n, rfl⟩ | ⟨hsmall, hpower⟩
  · exact nearest_le h
  · have hsize := (exponentOf_spec hq).1
    rcases lt_or_gt_of_ne hq with hnegative | hpositive
    · rw [abs_of_neg hnegative] at hsize
      have hbelow : q ≤ ((-2 ^ 52 : ℤ) : ℚ) * spacing q := by
        push_cast at hpower ⊢
        linarith
      calc nearest q ≤ ((-2 ^ 52 : ℤ) : ℚ) * spacing q := nearest_le hbelow
        _ = -2 ^ exponentOf q := by
            rw [hpower]
            push_cast
            ring
        _ ≤ t := (abs_le.mp hsmall).1
    · rw [abs_of_pos hpositive] at hsize
      have hequal : q = ((2 ^ 52 : ℤ) : ℚ) * spacing q := by
        rw [← hpower]
        exact le_antisymm (h.trans (abs_le.mp hsmall).2) hsize
      rw [nearest_eq_self hequal]
      exact h

/-- What a number is rounded to is one that binary64 can hold. -/
theorem binary_nearest {q : ℚ} (hq : q ≠ 0) : Binary (nearest q) := by
  refine ⟨nearestEven (q / spacing q), spacingExponent q, ?_, le_max_right _ _, ?_⟩
  · -- There are not more than 53 digits between the size of `q` and its spacing.
    have hsize : |q| ≤ ((2 ^ 53 : ℤ) : ℚ) * spacing q := by
      calc |q| ≤ 2 ^ (exponentOf q + 1) := (exponentOf_spec hq).2.le
        _ ≤ 2 ^ ((53 : ℤ) + spacingExponent q) := by
            apply zpow_le_zpow_right₀ one_le_two
            unfold spacingExponent
            omega
        _ = ((2 ^ 53 : ℤ) : ℚ) * spacing q := by
            rw [zpow_add₀ two_ne_zero, spacing_eq_zpow]
            norm_cast
    obtain ⟨hlower, hupper⟩ := abs_le.mp hsize
    apply abs_le.mpr
    constructor
    · apply le_nearestEven
      rw [le_div_iff₀ (spacing_pos q)]
      push_cast at hlower ⊢
      linarith
    · apply nearestEven_le
      exact (div_le_iff₀ (spacing_pos q)).mpr hupper
  · rw [nearest, spacing_eq_zpow]

/-- A number that binary64 can hold stays as it is. -/
theorem nearest_of_binary {t : ℚ} (hne : t ≠ 0) (ht : Binary t) : nearest t = t := by
  rcases ht.multiple_or_abs_le t with ⟨n, hn⟩ | ⟨hsmall, hpower⟩
  · exact nearest_eq_self hn
  · have habs : |t| = ((2 ^ 52 : ℤ) : ℚ) * spacing t := by
      rw [← hpower]
      exact le_antisymm hsmall (exponentOf_spec hne).1
    rcases abs_choice t with hsame | hopposite
    · apply nearest_eq_self (n := 2 ^ 52)
      rw [← habs, hsame]
    · apply nearest_eq_self (n := -2 ^ 52)
      rw [Int.cast_neg, neg_mul, ← habs, hopposite, neg_neg]

theorem round_eq_finite_iff {q r : ℚ} (hq : q ≠ 0) :
    round q = .finite r ↔ nearest q = r ∧ |r| < 2 ^ (1024 : ℤ) := by
  rw [round_of_ne_zero hq, abs_lt]
  constructor
  · intro h
    split_ifs at h with hlarge hsmall
    cases h
    exact ⟨rfl, not_le.mp hsmall, not_le.mp hlarge⟩
  · rintro ⟨rfl, hlower, hupper⟩
    rw [if_neg (not_le.mpr hupper), if_neg (not_le.mpr hlower)]

theorem binary_of_isExact {t : ℚ} (ht : (finite t).isExact = true) :
    Binary t ∧ t < 2 ^ (1024 : ℤ) := by
  have hround : round t = .finite t := by simpa only [isExact, beq_iff_eq] using ht
  by_cases hzero : t = 0
  · subst hzero
    exact ⟨⟨0, 0, by norm_num, by norm_num, by norm_num⟩, by positivity⟩
  · obtain ⟨hnearest, hsize⟩ := (round_eq_finite_iff hzero).mp hround
    have hbinary := binary_nearest hzero
    rw [hnearest] at hbinary
    exact ⟨hbinary, (abs_lt.mp hsize).2⟩

/-- What is not above a number that binary64 can hold is not rounded to above it. -/
theorem round_le {q t : ℚ} (ht : (finite t).isExact = true) (h : q ≤ t) :
    (round q).le (.finite t) = true := by
  by_cases hq : q = 0
  · subst hq
    exact decide_eq_true h
  · obtain ⟨hbinary, hsize⟩ := binary_of_isExact ht
    have hnearest := nearest_le_of_binary hq hbinary h
    rw [round_of_ne_zero hq, if_neg (not_le.mpr (hnearest.trans_lt hsize))]
    split_ifs
    · rfl
    · exact decide_eq_true hnearest

/-- A time that is before the rounded end of a span is before its exact end. -/
theorem lt_of_lt_add {s d t : ℚ} (ht : (finite t).isExact = true)
    (h : (finite t).lt ((finite s).add (.finite d)) = true) : t < s + d := by
  by_contra hle
  have hround : ((finite s).add (.finite d)).le (.finite t) = true :=
    round_le ht (not_lt.mp hle)
  have hirreflexive := lt_of_le_of_lt hround h
  rw [lt_irrefl] at hirreflexive
  cases hirreflexive

end Double

end AlertRelay
