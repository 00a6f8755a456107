import AlertRelay.Proofs.Number.Written
import Mathlib.Tactic.FieldSimp
import Mathlib.Tactic.Ring

/-!
Decimals, by their grammar.

`Digits` are digits of a base with the number that they write, and a `Decimal` is made of them, of a
point and of an exponent.  Main statements: what is read to its end as a numeral is a decimal
(`decimal_of_take?`), and every decimal is read so, as a numeral that writes the same
(`Decimal.take?`); the number that is read is the one nearest to it (`value_eq_round_exact`).
-/

namespace AlertRelay

namespace Numeral

/-- The digits of all bases, with small letters and with capitals. -/
def smallDigits : List Char := "0123456789abcdef".toList
def capitalDigits : List Char := "0123456789ABCDEF".toList

/-- Whether a character is the digit for a number below the base. -/
def IsDigit (base : ℕ) (c : Char) (d : ℕ) : Prop :=
  d < base ∧ (smallDigits[d]? = some c ∨ capitalDigits[d]? = some c)

/-- Digits of a base, one at least, and the number that they write. -/
inductive Digits (base : ℕ) : List Char → ℕ → Prop
  | one {c : Char} {d : ℕ} (digit : IsDigit base c d) : Digits base [c] d
  | more {cs : List Char} {n : ℕ} {c : Char} {d : ℕ} (before : Digits base cs n)
      (digit : IsDigit base c d) : Digits base (cs ++ [c]) (n * base + d)

/-- An exponent with its mark, with or without a sign; there may be none. -/
inductive Exponent : List Char → ℤ → Prop
  | none : Exponent [] 0
  | plain {mark : Char} {cs : List Char} {n : ℕ} (marked : mark = 'e' ∨ mark = 'E')
      (digits : Digits 10 cs n) : Exponent (mark :: cs) n
  | plus {mark : Char} {cs : List Char} {n : ℕ} (marked : mark = 'e' ∨ mark = 'E')
      (digits : Digits 10 cs n) : Exponent (mark :: '+' :: cs) n
  | minus {mark : Char} {cs : List Char} {n : ℕ} (marked : mark = 'e' ∨ mark = 'E')
      (digits : Digits 10 cs n) : Exponent (mark :: '-' :: cs) (-n)

/-- A decimal without a sign, and what it writes: digits before a point, behind it, or both, and an
exponent.  The point may be missing where no digits are behind it. -/
inductive Decimal : List Char → ℚ → Prop
  | whole {ws xs : List Char} {n : ℕ} {e : ℤ} (digits : Digits 10 ws n)
      (exponent : Exponent xs e) : Decimal (ws ++ xs) (n * 10 ^ e)
  | pointed {ws xs : List Char} {n : ℕ} {e : ℤ} (digits : Digits 10 ws n)
      (exponent : Exponent xs e) : Decimal (ws ++ '.' :: xs) (n * 10 ^ e)
  | mixed {ws fs xs : List Char} {n m : ℕ} {e : ℤ} (digits : Digits 10 ws n)
      (fraction : Digits 10 fs m) (exponent : Exponent xs e) :
      Decimal (ws ++ '.' :: (fs ++ xs)) ((n + m / 10 ^ fs.length) * 10 ^ e)
  | fraction {fs xs : List Char} {m : ℕ} {e : ℤ} (fraction : Digits 10 fs m)
      (exponent : Exponent xs e) : Decimal ('.' :: (fs ++ xs)) (m / 10 ^ fs.length * 10 ^ e)

section Digits

/-- The characters for digits, by their codes. -/
theorem digit_of_code : ∀ k < 103, digitValue (Char.ofNat k) < 16 →
    smallDigits[digitValue (Char.ofNat k)]? = some (Char.ofNat k) ∨
      capitalDigits[digitValue (Char.ofNat k)]? = some (Char.ofNat k) := by
  decide +kernel

theorem digitValue_of_code {d : ℕ} (hd : d < 16) {c : Char}
    (h : smallDigits[d]? = some c ∨ capitalDigits[d]? = some c) : digitValue c = d := by
  have hall : ∀ d < 16, smallDigits[d]?.all (digitValue · == d) = true ∧
      capitalDigits[d]?.all (digitValue · == d) = true := by
    decide
  obtain ⟨hsmall, hcapital⟩ := hall d hd
  rcases h with h | h
  · rw [h] at hsmall
    exact beq_iff_eq.mp hsmall
  · rw [h] at hcapital
    exact beq_iff_eq.mp hcapital

theorem toNat_of_digitValue_lt {c : Char} (h : digitValue c < 16) :
    48 ≤ c.toNat ∧ c.toNat < 103 := by
  have hrange {a b : Char} (hc : a ≤ c ∧ c ≤ b) (ha : 48 ≤ a.toNat) (hb : b.toNat < 103) :
      48 ≤ c.toNat ∧ c.toNat < 103 :=
    ⟨le_trans ha hc.1, lt_of_le_of_lt hc.2 hb⟩
  unfold digitValue at h
  split at h
  · next hc => exact hrange hc (by decide) (by decide)
  · split at h
    · next hc => exact hrange hc (by decide) (by decide)
    · split at h
      · next hc => exact hrange hc (by decide) (by decide)
      · omega

/-- The digit for a number is one of its two characters. -/
theorem isDigit_iff_digitValue {base : ℕ} (hbase : base ≤ 16) {c : Char} {d : ℕ} :
    IsDigit base c d ↔ digitValue c = d ∧ d < base := by
  constructor
  · rintro ⟨hd, h⟩
    exact ⟨digitValue_of_code (by omega) h, hd⟩
  · rintro ⟨rfl, hd⟩
    have hcode := digit_of_code c.toNat (toNat_of_digitValue_lt (by omega)).2
    rw [Char.ofNat_toNat] at hcode
    exact ⟨hd, hcode (by omega)⟩

/-- Digits of a base are read as the number that they write. -/
theorem digits_iff {base : ℕ} (hbase : base ≤ 16) {cs : List Char} {n : ℕ} :
    Digits base cs n ↔ cs ≠ [] ∧ (∀ c ∈ cs, digitValue c < base) ∧ natOf base cs = n := by
  constructor
  · intro h
    induction h with
    | one hdigit =>
        obtain ⟨rfl, hlt⟩ := (isDigit_iff_digitValue hbase).mp hdigit
        refine ⟨List.cons_ne_nil _ _, ?_, ?_⟩
        · intro c hc
          rwa [List.mem_singleton.mp hc]
        · rw [natOf_cons, List.length_nil, pow_zero, mul_one]
          rfl
    | more before hdigit ih =>
        obtain ⟨rfl, hlt⟩ := (isDigit_iff_digitValue hbase).mp hdigit
        obtain ⟨_, hall, hvalue⟩ := ih
        refine ⟨List.append_ne_nil_of_right_ne_nil _ (List.cons_ne_nil _ _), ?_, ?_⟩
        · intro c hc
          rcases List.mem_append.mp hc with hc | hc
          · exact hall c hc
          · rwa [List.mem_singleton.mp hc]
        · rw [natOf, List.foldl_append, ← natOf, hvalue]
          rfl
  · rintro ⟨hne, hall, rfl⟩
    induction cs using List.reverseRecOn with
    | nil => exact absurd rfl hne
    | append_singleton cs c ih =>
        have hc : IsDigit base c (digitValue c) :=
          (isDigit_iff_digitValue hbase).mpr
            ⟨rfl, hall c (List.mem_append_right cs List.mem_cons_self)⟩
        by_cases hnil : cs = []
        · subst hnil
          rw [List.nil_append, natOf_cons, List.length_nil, pow_zero, mul_one]
          exact .one hc
        · have hbefore := ih hnil fun d hd => hall d (List.mem_append_left _ hd)
          rw [natOf, List.foldl_append, ← natOf]
          exact .more hbefore hc

theorem isDigit_iff_digitValue_lt {c : Char} : isDigit c = true ↔ digitValue c < 10 := by
  constructor
  · exact digitValue_lt
  · intro h
    unfold digitValue at h
    split at h
    · next hrange => exact isDigit_iff.mpr hrange
    · split at h
      · omega
      · split at h <;> omega

/-- Decimal digits are those that are taken off the front of a text. -/
theorem digits_ten_iff {cs : List Char} {n : ℕ} :
    Digits 10 cs n ↔ cs ≠ [] ∧ (∀ c ∈ cs, isDigit c = true) ∧ natOf 10 cs = n := by
  simp only [digits_iff (by decide : 10 ≤ 16), isDigit_iff_digitValue_lt]

theorem takeDigits_append (cs : List Char) : (takeDigits cs).1 ++ (takeDigits cs).2 = cs :=
  List.takeWhile_append_dropWhile

theorem digits_takeDigits {cs : List Char} (h : (takeDigits cs).1 ≠ []) :
    Digits 10 (takeDigits cs).1 (natOf 10 (takeDigits cs).1) :=
  digits_ten_iff.mpr ⟨h, fun _ hc => List.mem_takeWhile_imp hc, rfl⟩

/-- Digits at the front of a text are taken off it. -/
theorem Digits.takeDigits {cs rest : List Char} {n : ℕ} (h : Digits 10 cs n)
    (hrest : ∀ c ∈ rest.head?, isDigit c = false) : takeDigits (cs ++ rest) = (cs, rest) :=
  takeDigits_run (digits_ten_iff.mp h).2.1 hrest

theorem Digits.natOf_eq {cs : List Char} {n : ℕ} (h : Digits 10 cs n) : natOf 10 cs = n :=
  (digits_ten_iff.mp h).2.2

theorem Digits.ne_nil {cs : List Char} {n : ℕ} (h : Digits 10 cs n) : cs ≠ [] :=
  (digits_ten_iff.mp h).1

theorem Digits.isEmpty {cs : List Char} {n : ℕ} (h : Digits 10 cs n) : cs.isEmpty = false :=
  List.isEmpty_eq_false_iff.mpr h.ne_nil

/-- Digits begin with a digit. -/
theorem Digits.exists_cons {cs : List Char} {n : ℕ} (h : Digits 10 cs n) :
    ∃ c rest, cs = c :: rest ∧ isDigit c = true := by
  obtain ⟨hne, hall, _⟩ := digits_ten_iff.mp h
  obtain ⟨c, rest, rfl⟩ := List.exists_cons_of_ne_nil hne
  exact ⟨c, rest, rfl, hall c List.mem_cons_self⟩

end Digits

section Exponents

/-- The sign at the front of an exponent, and what follows it. -/
def takeSign : List Char → Bool × List Char
  | '-' :: rest => (true, rest)
  | '+' :: rest => (false, rest)
  | rest => (false, rest)

/-- The size of an exponent with its sign. -/
def signed (negative : Bool) (n : ℕ) : ℤ :=
  if negative then -n else n

theorem takeExponent?_cons (mark : Char) (rest : List Char) : takeExponent? (mark :: rest) =
    if mark = 'e' ∨ mark = 'E' then
      if (takeDigits (takeSign rest).2).1.isEmpty then none
      else
        some (signed (takeSign rest).1 (natOf 10 (takeDigits (takeSign rest).2).1),
          (takeDigits (takeSign rest).2).2)
    else none :=
  rfl

theorem takeSign_cons {c : Char} (hminus : c ≠ '-') (hplus : c ≠ '+') (rest : List Char) :
    takeSign (c :: rest) = (false, c :: rest) := by
  unfold takeSign
  split
  · next h => exact absurd (List.cons.inj h).1 hminus
  · next h => exact absurd (List.cons.inj h).1 hplus
  · rfl

theorem takeExponent?_digits {mark : Char} (hmark : mark = 'e' ∨ mark = 'E')
    {negative : Bool} {cs rest : List Char} {n : ℕ} (hdigits : Digits 10 cs n)
    (hsign : takeSign rest = (negative, cs)) :
    takeExponent? (mark :: rest) = some (signed negative n, []) := by
  have htake : takeDigits (cs ++ []) = (cs, []) := hdigits.takeDigits (by simp)
  rw [List.append_nil] at htake
  rw [takeExponent?_cons, if_pos hmark, hsign, htake, hdigits.isEmpty, if_neg Bool.false_ne_true,
    hdigits.natOf_eq]

/-- What is behind the digits of a numeral is an exponent if it is read to its end. -/
theorem exponent_iff {xs : List Char} {e : ℤ} :
    Exponent xs e ↔ (takeExponent? xs).getD (0, xs) = (e, []) := by
  constructor
  · intro h
    cases h with
    | none => rfl
    | plain hmark hdigits =>
        obtain ⟨c, rest, rfl, hc⟩ := hdigits.exists_cons
        have hcode := isDigit_iff.mp hc
        have hsign : takeSign (c :: rest) = (false, c :: rest) := by
          apply takeSign_cons
          · rintro rfl
            exact absurd hcode (by decide)
          · rintro rfl
            exact absurd hcode (by decide)
        rw [takeExponent?_digits hmark hdigits hsign]
        rfl
    | plus hmark hdigits =>
        rw [takeExponent?_digits hmark hdigits rfl]
        rfl
    | minus hmark hdigits =>
        rw [takeExponent?_digits hmark hdigits rfl]
        rfl
  · intro h
    cases xs with
    | nil =>
        cases h
        exact .none
    | cons mark rest =>
        rw [takeExponent?_cons] at h
        -- Without a mark or without digits the text is not read to its end.
        split_ifs at h with hmark hempty
        · cases h
        · have hdigits := digits_takeDigits (mt List.isEmpty_iff.mpr hempty)
          have hend : (takeDigits (takeSign rest).2).2 = [] := (Prod.ext_iff.mp h).2
          have hwhole := takeDigits_append (takeSign rest).2
          rw [hend, List.append_nil] at hwhole
          have hvalue : signed (takeSign rest).1 (natOf 10 (takeDigits (takeSign rest).2).1) = e :=
            (Prod.ext_iff.mp h).1
          rw [hwhole] at hdigits hvalue
          rw [← hvalue]
          unfold takeSign at hdigits ⊢
          split at hdigits <;> simp only at hdigits ⊢
          · exact .minus hmark hdigits
          · exact .plus hmark hdigits
          · exact .plain hmark hdigits
        · cases h

/-- An exponent begins with its mark. -/
theorem Exponent.head {xs : List Char} {e : ℤ} (h : Exponent xs e) :
    ∀ c ∈ xs.head?, isDigit c = false ∧ c ≠ '.' := by
  have hmarks : ∀ mark : Char, mark = 'e' ∨ mark = 'E' → isDigit mark = false ∧ mark ≠ '.' := by
    rintro mark (rfl | rfl) <;> decide
  cases h with
  | none => exact fun _ hc => absurd hc (by simp)
  | plain hmark => exact fun c hc => Option.some.inj hc ▸ hmarks _ hmark
  | plus hmark => exact fun c hc => Option.some.inj hc ▸ hmarks _ hmark
  | minus hmark => exact fun c hc => Option.some.inj hc ▸ hmarks _ hmark

end Exponents

section Decimals

/-- The digits behind a point at the front of a text, if there is one, and what follows. -/
def takeFraction : List Char → List Char × List Char
  | '.' :: rest => takeDigits rest
  | rest => ([], rest)

theorem takeFraction_of_ne {cs : List Char} (h : ∀ c ∈ cs.head?, c ≠ '.') :
    takeFraction cs = ([], cs) := by
  unfold takeFraction
  split
  · exact absurd rfl (h '.' rfl)
  · rfl

/-- The numeral at the front of a text, part by part. -/
theorem take?_eq (cs : List Char) : take? cs =
    let fraction := takeFraction (takeDigits cs).2
    let exponent := (takeExponent? fraction.2).getD (0, fraction.2)
    if (takeDigits cs).1.isEmpty && fraction.1.isEmpty then none
    else some (⟨(takeDigits cs).1, fraction.1, exponent.1⟩, exponent.2) := by
  unfold take?
  dsimp only
  split
  · next rest hpoint =>
      have hfraction : takeFraction (takeDigits cs).2 = takeDigits rest := by
        rw [hpoint]
        rfl
      rw [hfraction]
      cases takeExponent? (takeDigits rest).2 <;> rfl
  · next hpoint =>
      have hfraction : takeFraction (takeDigits cs).2 = ([], (takeDigits cs).2) := by
        refine takeFraction_of_ne fun c hc hc' => ?_
        obtain ⟨rest, hrest⟩ := List.head?_eq_some_iff.mp hc
        exact hpoint rest (hc' ▸ hrest)
      rw [hfraction]
      dsimp only
      cases takeExponent? (takeDigits cs).2 <;> rfl

/-- What a numeral writes. -/
def exact (n : Numeral) : ℚ :=
  (natOf 10 n.whole + natOf 10 n.fraction / 10 ^ n.fraction.length) * 10 ^ n.exponent

/-- Reading a numeral is rounding what it writes. -/
theorem value_eq_round_exact (n : Numeral) : n.value = Double.round n.exact := by
  have hscale : (10 : ℚ) ^ (n.exponent - n.fraction.length) =
      10 ^ n.exponent / 10 ^ n.fraction.length := by
    rw [zpow_sub₀ (by norm_num), zpow_natCast]
  have hten : (10 : ℚ) ^ n.fraction.length ≠ 0 := by positivity
  rw [value_eq_round, natOf_append, hscale, exact]
  congr 1
  push_cast
  field_simp

theorem exact_of_whole {ws : List Char} {n : ℕ} (h : natOf 10 ws = n) (e : ℤ) :
    exact ⟨ws, [], e⟩ = n * 10 ^ e := by
  have hnil : natOf 10 [] = 0 := rfl
  simp [exact, h, hnil]

theorem exact_of_fraction {fs : List Char} {m : ℕ} (h : natOf 10 fs = m) (e : ℤ) :
    exact ⟨[], fs, e⟩ = m / 10 ^ fs.length * 10 ^ e := by
  have hnil : natOf 10 [] = 0 := rfl
  simp [exact, h, hnil]

/-- A decimal is read to its end as a numeral that writes the same. -/
theorem Decimal.take? {cs : List Char} {q : ℚ} (h : Decimal cs q) :
    ∃ n, Numeral.take? cs = some (n, []) ∧ n.exact = q := by
  have hpoint (rest : List Char) : ∀ c ∈ ('.' :: rest).head?, isDigit c = false := by
    rintro c ⟨⟩
    rfl
  cases h with
  | @whole ws xs n e hdigits hexponent =>
      refine ⟨⟨ws, [], e⟩, ?_, exact_of_whole hdigits.natOf_eq e⟩
      have hbehind := takeFraction_of_ne fun c hc => (hexponent.head c hc).2
      rw [take?_eq, hdigits.takeDigits fun c hc => (hexponent.head c hc).1]
      simp only [hbehind, hdigits.isEmpty, exponent_iff.mp hexponent, Bool.false_and,
        Bool.false_eq_true, if_false]
  | @pointed ws xs n e hdigits hexponent =>
      refine ⟨⟨ws, [], e⟩, ?_, exact_of_whole hdigits.natOf_eq e⟩
      have hbehind : takeFraction ('.' :: xs) = ([], xs) :=
        takeDigits_of_head fun c hc => (hexponent.head c hc).1
      rw [take?_eq, hdigits.takeDigits (hpoint xs)]
      simp only [hbehind, hdigits.isEmpty, exponent_iff.mp hexponent, Bool.false_and,
        Bool.false_eq_true, if_false]
  | @mixed ws fs xs n m e hdigits hfraction hexponent =>
      refine ⟨⟨ws, fs, e⟩, ?_, ?_⟩
      · have hbehind : takeFraction ('.' :: (fs ++ xs)) = (fs, xs) :=
          hfraction.takeDigits fun c hc => (hexponent.head c hc).1
        rw [take?_eq, hdigits.takeDigits (hpoint _)]
        simp only [hbehind, hdigits.isEmpty, exponent_iff.mp hexponent, Bool.false_and,
          Bool.false_eq_true, if_false]
      · rw [exact, hdigits.natOf_eq, hfraction.natOf_eq]
  | @fraction fs xs m e hfraction hexponent =>
      refine ⟨⟨[], fs, e⟩, ?_, exact_of_fraction hfraction.natOf_eq e⟩
      have hbehind : takeFraction ('.' :: (fs ++ xs)) = (fs, xs) :=
        hfraction.takeDigits fun c hc => (hexponent.head c hc).1
      rw [take?_eq, takeDigits_of_head (hpoint _)]
      simp only [hbehind, hfraction.isEmpty, exponent_iff.mp hexponent, Bool.and_false,
        Bool.false_eq_true, if_false]

/-- Digits, with what is behind them, are a decimal if there are digits at all and an exponent is
what is left. -/
theorem decimal_of_parts {ws behind : List Char} {e : ℤ}
    (hdigits : ws ≠ [] → Digits 10 ws (natOf 10 ws))
    (hsome : ws ≠ [] ∨ (takeFraction behind).1 ≠ [])
    (hexponent : Exponent (takeFraction behind).2 e) :
    Decimal (ws ++ behind) (exact ⟨ws, (takeFraction behind).1, e⟩) := by
  by_cases hpoint : behind.head? = some '.'
  · obtain ⟨rest, rfl⟩ := List.head?_eq_some_iff.mp hpoint
    have htake : takeFraction ('.' :: rest) = takeDigits rest := rfl
    have hfraction := @digits_takeDigits rest
    rw [htake] at hsome hexponent ⊢
    have hrest := takeDigits_append rest
    generalize (takeDigits rest).1 = fs at hsome hfraction hrest ⊢
    generalize (takeDigits rest).2 = xs at hexponent hrest
    subst hrest
    by_cases hwhole : ws = []
    · subst hwhole
      have hfs : fs ≠ [] := hsome.resolve_left fun h => h rfl
      rw [exact_of_fraction rfl]
      exact .fraction (hfraction hfs) hexponent
    · by_cases hnone : fs = []
      · subst hnone
        rw [exact_of_whole rfl]
        exact .pointed (hdigits hwhole) hexponent
      · exact .mixed (hdigits hwhole) (hfraction hnone) hexponent
  · have htake : takeFraction behind = ([], behind) :=
      takeFraction_of_ne fun c hc heq => hpoint (heq ▸ hc)
    rw [htake] at hsome hexponent ⊢
    have hwhole : ws ≠ [] := hsome.resolve_right fun h => h rfl
    rw [exact_of_whole rfl]
    exact .whole (hdigits hwhole) hexponent

/-- What is read to its end as a numeral is a decimal. -/
theorem decimal_of_take? {cs : List Char} {n : Numeral} (h : Numeral.take? cs = some (n, [])) :
    Decimal cs n.exact := by
  rw [take?_eq] at h
  dsimp only at h
  split_ifs at h with hnone
  injection h with h
  injection h with hn hrest
  have hsome : (takeDigits cs).1 ≠ [] ∨ (takeFraction (takeDigits cs).2).1 ≠ [] := by
    simpa [Classical.or_iff_not_imp_left] using hnone
  have hdecimal := decimal_of_parts digits_takeDigits hsome (exponent_iff.mpr (Prod.ext rfl hrest))
  rw [takeDigits_append, hn] at hdecimal
  exact hdecimal

end Decimals

end Numeral

end AlertRelay
