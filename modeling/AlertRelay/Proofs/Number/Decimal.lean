import AlertRelay.Proofs.Number.Digits
import AlertRelay.Proofs.Number.Rounding
import Mathlib.Data.List.TakeWhile

/-!
Decimal numbers read as binary64 numbers.

Rounding moves a number by not more than half of the spacing around it (`abs_nearest_sub_le`), so
that whatever is closer than this to a number that binary64 can hold is rounded to it.  Main
statements: reading a numeral is rounding the number that it writes, also where the numeral is so
large or so small that it is not expanded (`Numeral.value_eq_round`), and the shortest decimal of a
number is read back as that number (`round_shortest`).
-/

namespace AlertRelay

namespace Double

theorem tenPow_eq_zpow (e : ℤ) : tenPow e = (10 : ℚ) ^ e := by
  cases e with
  | ofNat n =>
      simp only [tenPow, Int.ofNat_eq_natCast, zpow_natCast, Nat.pow_eq, Nat.cast_pow,
        Nat.cast_ofNat]
  | negSucc n =>
      simp only [tenPow, zpow_negSucc, Rat.mkRat_eq_div, Nat.pow_eq, Nat.cast_pow,
        Nat.cast_ofNat, Int.cast_one, one_div]

section Distance

/-- A number is rounded to a whole number by not more than a half. -/
theorem abs_nearestEven_sub_le (q : ℚ) : |(nearestEven q : ℚ) - q| ≤ 1 / 2 := by
  have hlower : (q.floor : ℚ) ≤ q := Rat.floor_le q
  have hupper : q < q.floor + 1 := by exact_mod_cast Rat.lt_floor_add_one q
  have hhalf : mkRat 1 2 = 1 / 2 := Rat.mkRat_eq_div 1 2
  unfold nearestEven
  dsimp only
  rw [hhalf, abs_le]
  split_ifs <;> push_cast <;> constructor <;> linarith

/-- What is closer than a half to a whole number is rounded to it. -/
theorem nearestEven_of_abs_sub_lt {q : ℚ} {k : ℤ} (h : |q - k| < 1 / 2) : nearestEven q = k := by
  have hdistance : |((nearestEven q - k : ℤ) : ℚ)| < ((1 : ℤ) : ℚ) := by
    calc |((nearestEven q - k : ℤ) : ℚ)| = |((nearestEven q : ℚ) - q) + (q - k)| := by
          push_cast
          ring_nf
      _ ≤ |(nearestEven q : ℚ) - q| + |q - k| := abs_add_le _ _
      _ < 1 / 2 + 1 / 2 := add_lt_add_of_le_of_lt (abs_nearestEven_sub_le q) h
      _ = ((1 : ℤ) : ℚ) := by norm_num
  have hzero : |nearestEven q - k| < 1 := by exact_mod_cast hdistance
  have hsame : nearestEven q - k = 0 := Int.abs_lt_one_iff.mp hzero
  omega

/-- Rounding moves a number by not more than half of the spacing around it. -/
theorem abs_nearest_sub_le (q : ℚ) : |nearest q - q| ≤ spacing q / 2 := by
  have hspacing := spacing_pos q
  have hscaled : nearest q - q = ((nearestEven (q / spacing q) : ℚ) - q / spacing q) * spacing q := by
    rw [sub_mul, div_mul_cancel₀ q hspacing.ne']
    rfl
  calc |nearest q - q| = |(nearestEven (q / spacing q) : ℚ) - q / spacing q| * spacing q := by
        rw [hscaled, abs_mul, abs_of_pos hspacing]
    _ ≤ 1 / 2 * spacing q :=
        mul_le_mul_of_nonneg_right (abs_nearestEven_sub_le _) hspacing.le
    _ = spacing q / 2 := by ring

/-- What is closer than half a spacing to a multiple of that spacing is rounded to it. -/
theorem nearest_of_abs_sub_lt {q t : ℚ} {n : ℤ} (ht : t = n * spacing q)
    (h : |q - t| < spacing q / 2) : nearest q = t := by
  have hspacing := spacing_pos q
  have hquotient : |q / spacing q - n| < 1 / 2 := by
    have hscaled : q / spacing q - n = (q - t) / spacing q := by
      rw [ht, sub_div, mul_div_cancel_right₀ _ hspacing.ne']
    rw [hscaled, abs_div, abs_of_pos hspacing, div_lt_iff₀ hspacing]
    linarith
  rw [nearest, nearestEven_of_abs_sub_lt hquotient, ht]

/-- The spacing around a number is larger than a part of `2 ^ 53` of it. -/
theorem abs_lt_mul_spacing {q : ℚ} (hq : q ≠ 0) : |q| < 2 ^ (53 : ℤ) * spacing q := by
  calc |q| < 2 ^ (exponentOf q + 1) := (exponentOf_spec hq).2
    _ ≤ 2 ^ ((53 : ℤ) + spacingExponent q) := by
        apply zpow_le_zpow_right₀ one_le_two
        unfold spacingExponent
        omega
    _ = 2 ^ (53 : ℤ) * spacing q := by rw [zpow_add₀ two_ne_zero, spacing_eq_zpow]

theorem two_zpow_le_ten_zpow : (2 : ℚ) ^ (1200 : ℤ) ≤ 10 ^ (400 : ℤ) := by
  calc (2 : ℚ) ^ (1200 : ℤ) = 2 ^ ((3 : ℤ) * 400) := by norm_num
    _ = (2 ^ (3 : ℤ)) ^ (400 : ℤ) := zpow_mul 2 3 400
    _ ≤ 10 ^ (400 : ℤ) := zpow_le_zpow_left₀ (by norm_num) (by norm_num) (by norm_num)

/-- Numbers that are very large are rounded to infinity. -/
theorem round_of_large {q : ℚ} (h : (10 : ℚ) ^ (400 : ℤ) ≤ q) : round q = .posInf := by
  have hlarge : (2 : ℚ) ^ (1200 : ℤ) ≤ q := two_zpow_le_ten_zpow.trans h
  have hpos : 0 < q := lt_of_lt_of_le (by positivity) hlarge
  have hsmall : spacing q ≤ q := by
    rw [spacing_eq_zpow, spacingExponent]
    rcases max_choice (exponentOf q - 52) (-1074) with hmax | hmax
    · calc (2 : ℚ) ^ Max.max (exponentOf q - 52) (-1074) = 2 ^ (exponentOf q - 52) := by rw [hmax]
        _ ≤ 2 ^ exponentOf q := zpow_le_zpow_right₀ one_le_two (by omega)
        _ ≤ |q| := (exponentOf_spec hpos.ne').1
        _ = q := abs_of_pos hpos
    · calc (2 : ℚ) ^ Max.max (exponentOf q - 52) (-1074) = 2 ^ (-1074 : ℤ) := by rw [hmax]
        _ ≤ 2 ^ (1200 : ℤ) := zpow_le_zpow_right₀ one_le_two (by omega)
        _ ≤ q := hlarge
  have hmoved := (abs_le.mp (abs_nearest_sub_le q)).1
  have hlimit : (2 : ℚ) ^ (1024 : ℤ) ≤ nearest q := by
    calc (2 : ℚ) ^ (1024 : ℤ) ≤ 2 ^ ((1200 : ℤ) - 1) := zpow_le_zpow_right₀ one_le_two (by omega)
      _ = 2 ^ (1200 : ℤ) / 2 := by rw [zpow_sub_one₀ two_ne_zero, div_eq_mul_inv]
      _ ≤ q / 2 := div_le_div_of_nonneg_right hlarge zero_le_two
      _ ≤ nearest q := by linarith
  rw [round_of_ne_zero hpos.ne', if_pos hlimit]

/-- Numbers that are very small are rounded to zero. -/
theorem round_of_small {q : ℚ} (hq : 0 < q) (h : q < (10 : ℚ) ^ (-400 : ℤ)) :
    round q = .finite 0 := by
  have hhalf : q < spacing q / 2 := by
    calc q < (10 : ℚ) ^ (-400 : ℤ) := h
      _ ≤ 2 ^ (-1200 : ℤ) := by
          rw [zpow_neg, zpow_neg]
          exact inv_anti₀ (by positivity) two_zpow_le_ten_zpow
      _ ≤ 2 ^ ((-1074 : ℤ) - 1) := zpow_le_zpow_right₀ one_le_two (by omega)
      _ = 2 ^ (-1074 : ℤ) / 2 := by rw [zpow_sub_one₀ two_ne_zero, div_eq_mul_inv]
      _ ≤ spacing q / 2 := by
          rw [spacing_eq_zpow]
          exact div_le_div_of_nonneg_right (zpow_le_zpow_right₀ one_le_two (le_max_right _ _))
            zero_le_two
  apply (round_eq_finite_iff hq.ne').mpr
  constructor
  · apply nearest_of_abs_sub_lt (n := 0) (by rw [Int.cast_zero, zero_mul])
    rwa [sub_zero, abs_of_pos hq]
  · rw [abs_zero]
    positivity

end Distance

section Reading

/-- The number that digits with a scale write is as large as the place of the first one says. -/
theorem scaled_bounds {n : Nat} (hn : 0 < n) (scale : ℤ) :
    (10 : ℚ) ^ (scale + (digitsOf n).length - 1) ≤ n * 10 ^ scale ∧
      (n : ℚ) * 10 ^ scale < 10 ^ (scale + (digitsOf n).length) := by
  obtain ⟨hlower, hupper⟩ := Numeral.digitsOf_bounds hn
  have hlength : 0 < (digitsOf n).length := List.length_pos_of_ne_nil (Numeral.digitsOf_ne_nil n)
  have hlower : (10 : ℚ) ^ ((digitsOf n).length - 1) ≤ n := by exact_mod_cast hlower
  have hupper : (n : ℚ) < 10 ^ (digitsOf n).length := by exact_mod_cast hupper
  have hscale : (0 : ℚ) < 10 ^ scale := by positivity
  constructor
  · calc (10 : ℚ) ^ (scale + (digitsOf n).length - 1)
        = 10 ^ (((digitsOf n).length - 1 : ℕ) + scale) := by
          congr 1
          omega
      _ = 10 ^ ((digitsOf n).length - 1) * 10 ^ scale := by
          rw [zpow_add₀ (by norm_num), zpow_natCast]
      _ ≤ n * 10 ^ scale := mul_le_mul_of_nonneg_right hlower hscale.le
  · calc (n : ℚ) * 10 ^ scale < 10 ^ (digitsOf n).length * 10 ^ scale :=
          mul_lt_mul_of_pos_right hupper hscale
      _ = 10 ^ (scale + (digitsOf n).length) := by
          rw [add_comm, zpow_add₀ (by norm_num), zpow_natCast]

end Reading

end Double

/-- Reading a numeral is rounding the number that it writes, also where it is not expanded. -/
theorem Numeral.value_eq_round (n : Numeral) : n.value =
    Double.round ((natOf 10 (n.whole ++ n.fraction) : ℚ) *
      10 ^ (n.exponent - n.fraction.length)) := by
  unfold value
  dsimp only
  split
  · next hzero =>
      rw [hzero, Nat.cast_zero, zero_mul]
      rfl
  · next hzero =>
      obtain ⟨hlower, hupper⟩ := Double.scaled_bounds (Nat.pos_of_ne_zero hzero)
        (n.exponent - n.fraction.length)
      split
      · next hlarge =>
          rw [Double.round_of_large]
          exact (zpow_le_zpow_right₀ (by norm_num) (by omega)).trans hlower
      · split
        · next hsmall =>
            rw [Double.round_of_small]
            · exact lt_of_lt_of_le (by positivity) hlower
            · exact hupper.trans_le (zpow_le_zpow_right₀ (by norm_num) (by omega))
        · rw [Double.tenPow_eq_zpow]

namespace Double

section Shortest

/-- The number that a decimal is. -/
def Scientific.value (d : Scientific) : ℚ :=
  Numeral.natOf 10 d.digits * 10 ^ (d.place - d.digits.length)

/-- Whether a decimal is written by digits that begin with no zero. -/
structure Scientific.WellFormed (d : Scientific) : Prop where
  ne_nil : d.digits ≠ []
  isDigit : ∀ c ∈ d.digits, Numeral.isDigit c = true
  head : ∀ c ∈ d.digits.head?, c ≠ '0'

/-- The digits that are dropped from the end of those of a number are zeros. -/
theorem exists_digitsOf_eq (n : Nat) (scale : ℤ) :
    ∃ k : ℕ, digitsOf n = (Scientific.ofScaled n scale).digits ++ List.replicate k '0' := by
  have hzeros : ∀ c ∈ (digitsOf n).reverse.takeWhile (· == '0'), c = '0' := by
    intro c hc
    exact beq_iff_eq.mp (List.mem_takeWhile_imp (p := (· == '0')) hc)
  have hparts : (digitsOf n).reverse.takeWhile (· == '0') ++
      (digitsOf n).reverse.dropWhile (· == '0') = (digitsOf n).reverse :=
    List.takeWhile_append_dropWhile
  refine ⟨((digitsOf n).reverse.takeWhile (· == '0')).length, ?_⟩
  have hall := congrArg List.reverse hparts
  rw [List.eq_replicate_of_mem hzeros, List.reverse_append, List.reverse_reverse,
    List.reverse_replicate] at hall
  exact hall.symm

theorem Scientific.ofScaled_wellFormed {n : Nat} (hn : 0 < n) (scale : ℤ) :
    (Scientific.ofScaled n scale).WellFormed := by
  obtain ⟨k, hk⟩ := exists_digitsOf_eq n scale
  have hne : (Scientific.ofScaled n scale).digits ≠ [] := by
    intro hnil
    have hread := Numeral.natOf_digitsOf n
    rw [hk, hnil, List.nil_append, Numeral.natOf_zeros] at hread
    omega
  refine ⟨hne, ?_, ?_⟩
  · intro c hc
    exact Numeral.isDigit_of_mem_digitsOf (n := n) (hk ▸ List.mem_append_left _ hc)
  · intro c hc
    apply Numeral.head_digitsOf hn
    rw [hk, List.head?_append_of_ne_nil _ hne]
    exact hc

/-- Dropping zeros at the end does not change the number. -/
theorem Scientific.ofScaled_value (n : Nat) (scale : ℤ) :
    (Scientific.ofScaled n scale).value = n * 10 ^ scale := by
  obtain ⟨k, hk⟩ := exists_digitsOf_eq n scale
  have hplace : (Scientific.ofScaled n scale).place = (digitsOf n).length + scale := rfl
  have hlength : (digitsOf n).length = (Scientific.ofScaled n scale).digits.length + k := by
    rw [hk, List.length_append, List.length_replicate]
  have hread := Numeral.natOf_digitsOf n
  rw [hk, Numeral.natOf_append_zeros] at hread
  have hscale : (Scientific.ofScaled n scale).place - (Scientific.ofScaled n scale).digits.length =
      k + scale := by
    rw [hplace, hlength]
    push_cast
    ring
  rw [Scientific.value, hscale, zpow_add₀ (by norm_num), zpow_natCast, ← mul_assoc]
  congr 1
  exact_mod_cast hread

/-- A neighbour on a grid is only taken if it is read back. -/
theorem round_of_gridNeighbour? {q : ℚ} {scale : ℤ} {n : Nat}
    (h : gridNeighbour? q scale = some n) : round ((n : ℚ) * 10 ^ scale) = .finite q := by
  rw [← tenPow_eq_zpow]
  unfold gridNeighbour? at h
  dsimp only at h
  split at h
  · next hbelow habove =>
      split at h
      · cases h
        exact beq_iff_eq.mp habove
      · cases h
        exact beq_iff_eq.mp hbelow
  · next hbelow _ =>
      cases h
      exact beq_iff_eq.mp hbelow
  · next _ habove =>
      cases h
      exact beq_iff_eq.mp habove
  · cases h

/-- The place of the first digit of a number is not above its size. -/
theorem zpow_leadingPlace_le {q : ℚ} (hq : 0 < q) : (10 : ℚ) ^ (leadingPlace q - 1) ≤ q := by
  have hnum : 0 < q.num.natAbs := Int.natAbs_pos.mpr (Rat.num_pos.mpr hq).ne'
  have hden : (0 : ℚ) < q.den := Nat.cast_pos.mpr q.den_pos
  unfold leadingPlace
  dsimp only
  split
  · next hle =>
      rw [tenPow_eq_zpow] at hle
      rwa [add_sub_cancel_right]
  · -- The numerator has at least its number of digits, the denominator at most.
    have hlower := (scaled_bounds hnum 0).1
    have hupper := (scaled_bounds q.den_pos 0).2
    rw [zpow_zero, mul_one] at hlower hupper
    have hproduct : q * q.den = q.num.natAbs := by
      rw [← eq_div_iff hden.ne', ← abs_eq_natAbs_div, abs_of_pos hq]
    apply le_of_mul_le_mul_right _ hden
    rw [hproduct]
    calc (10 : ℚ) ^ (((digitsOf q.num.natAbs).length : ℤ) - (digitsOf q.den).length - 1) * q.den
        ≤ 10 ^ (((digitsOf q.num.natAbs).length : ℤ) - (digitsOf q.den).length - 1) *
            10 ^ (0 + ((digitsOf q.den).length : ℤ)) :=
          mul_le_mul_of_nonneg_left hupper.le (by positivity)
      _ = 10 ^ (0 + ((digitsOf q.num.natAbs).length : ℤ) - 1) := by
          rw [← zpow_add₀ (by norm_num)]
          congr 1
          omega
      _ ≤ q.num.natAbs := hlower

/-- What is just below a number that binary64 can hold, by less than a part of `10 ^ 17`, is read
as that number. -/
theorem round_of_close {d q : ℚ} (hq : 0 < q) (hexact : (finite q).isExact = true) (hle : d ≤ q)
    (hclose : q - d < q / 10 ^ 17) : round d = .finite q := by
  obtain ⟨hbinary, hsize⟩ := binary_of_isExact hexact
  have hd : 0 < d := by linarith
  rcases hbinary.multiple_or_abs_le d with ⟨n, hn⟩ | ⟨hsmall, -⟩
  · have hspacing := abs_lt_mul_spacing hd.ne'
    have hhalf : |d - q| < spacing d / 2 := by
      rw [abs_of_pos hd] at hspacing
      rw [abs_of_nonpos (by linarith)]
      norm_num at hspacing hclose
      linarith
    apply (round_eq_finite_iff hd.ne').mpr
    exact ⟨nearest_of_abs_sub_lt hn hhalf, by rwa [abs_of_pos hq]⟩
  · have hbelow := (exponentOf_spec hd.ne').1
    rw [abs_of_pos hd] at hbelow
    rw [abs_of_pos hq] at hsmall
    rw [le_antisymm hle (hsmall.trans hbelow)]
    exact beq_iff_eq.mp hexact

/-- A decimal of eighteen digits that is cut off below a number that binary64 can hold is read back
as that number. -/
theorem round_of_cut {q : ℚ} {place : ℤ} (hq : 0 < q) (hexact : (finite q).isExact = true)
    (hplace : (10 : ℚ) ^ (place - 1) ≤ q) :
    0 < (q / tenPow (place - 18)).floor.toNat ∧
      round (((q / tenPow (place - 18)).floor.toNat : ℚ) * 10 ^ (place - 18)) = .finite q := by
  have hunit : (0 : ℚ) < 10 ^ (place - 18) := by positivity
  have hpart : (10 : ℚ) ^ (17 : ℤ) * 10 ^ (place - 18) ≤ q := by
    rw [← zpow_add₀ (by norm_num)]
    convert hplace using 2
    omega
  have hmany : ((10 ^ 17 : ℤ) : ℚ) ≤ q / tenPow (place - 18) := by
    rw [tenPow_eq_zpow, le_div_iff₀ hunit]
    exact_mod_cast hpart
  have hfloor : 10 ^ 17 ≤ (q / tenPow (place - 18)).floor := Rat.le_floor_iff.mpr hmany
  have hcast : (((q / tenPow (place - 18)).floor.toNat : ℤ) : ℚ) =
      (q / tenPow (place - 18)).floor := by
    rw [Int.toNat_of_nonneg (by omega)]
  have hlower : ((q / tenPow (place - 18)).floor : ℚ) ≤ q / tenPow (place - 18) := Rat.floor_le _
  have hupper : q / tenPow (place - 18) < (q / tenPow (place - 18)).floor + 1 := by
    exact_mod_cast Rat.lt_floor_add_one _
  rw [← hcast, tenPow_eq_zpow, Int.cast_natCast] at hlower hupper
  rw [le_div_iff₀ hunit] at hlower
  rw [div_lt_iff₀ hunit] at hupper
  refine ⟨by omega, round_of_close hq hexact (by rwa [tenPow_eq_zpow]) ?_⟩
  rw [tenPow_eq_zpow, lt_div_iff₀ (by norm_num)]
  norm_num at hpart
  linarith

theorem shortestFrom_reads {q : ℚ} {place : ℤ} (hq : 0 < q) (hexact : (finite q).isExact = true)
    (hplace : (10 : ℚ) ^ (place - 1) ≤ q) {count more : Nat} (hcount : count + more = 18) :
    (shortestFrom q place count more).WellFormed ∧
      round (shortestFrom q place count more).value = .finite q := by
  induction more generalizing count with
  | zero =>
      obtain rfl : count = 18 := hcount
      obtain ⟨hpos, hround⟩ := round_of_cut hq hexact hplace
      exact ⟨Scientific.ofScaled_wellFormed hpos _, (Scientific.ofScaled_value _ _).symm ▸ hround⟩
  | succ more ih =>
      unfold shortestFrom
      cases hgrid : gridNeighbour? q (place - count) with
      | none => exact ih (by omega)
      | some n =>
          have hround := round_of_gridNeighbour? hgrid
          have hpos : 0 < n := by
            apply Nat.pos_of_ne_zero
            rintro rfl
            rw [Nat.cast_zero, zero_mul] at hround
            exact hq.ne (finite.inj hround)
          exact ⟨Scientific.ofScaled_wellFormed hpos _,
            (Scientific.ofScaled_value _ _).symm ▸ hround⟩

/-- The shortest decimal of a number is read back as that number. -/
theorem round_shortest {q : ℚ} (hq : 0 < q) (hexact : (finite q).isExact = true) :
    (shortest q).WellFormed ∧ round (shortest q).value = .finite q :=
  shortestFrom_reads hq hexact (zpow_leadingPlace_le hq) rfl

end Shortest

end Double

end AlertRelay
