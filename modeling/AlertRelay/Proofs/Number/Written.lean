import AlertRelay.Proofs.Number.Decimal
import AlertRelay.Proofs.Text.Runs
import AlertRelay.Value.Json

/-!
Numbers in JSON text.

A plain numeral is read from the front of a text as it was written, if what follows cannot belong
to it (`readNumber?_signed`).  The text of a number is such a numeral, perhaps with a sign, in each
of its four forms; main statement: every number that binary64 can hold is read back from its text
(`readNumber?_text`).
-/

namespace AlertRelay

open AlertRelay.Text

namespace Numeral

/-- A fraction with its point. -/
def fractionChars (fraction : List Char) : List Char :=
  if fraction.isEmpty then [] else '.' :: fraction

/-- An exponent with its mark and its sign. -/
def exponentChars (exponent : ℤ) : List Char :=
  if exponent = 0 then []
  else 'e' :: (if exponent < 0 then '-' else '+') :: Double.digitsOf exponent.natAbs

/-- A numeral as it is written. -/
def chars (n : Numeral) : List Char :=
  n.whole ++ (fractionChars n.fraction ++ exponentChars n.exponent)

/-- Whether a numeral has digits only, at least one before the point, and no needless zero at the
front. -/
structure Plain (n : Numeral) : Prop where
  ne_nil : n.whole ≠ []
  isDigit : ∀ c ∈ n.whole ++ n.fraction, isDigit c = true
  head : n.whole.length = 1 ∨ ∀ c ∈ n.whole.head?, c ≠ '0'

/-- Whether a text cannot belong to a numeral in front of it. -/
def Ends (rest : List Char) : Prop :=
  ∀ c ∈ rest.head?, isDigit c = false ∧ c ≠ '.' ∧ c ≠ 'e' ∧ c ≠ 'E'

section Reading

variable {rest : List Char}

theorem takeDigits_run {digits : List Char} (hdigits : ∀ c ∈ digits, isDigit c = true)
    (hrest : ∀ c ∈ rest.head?, isDigit c = false) :
    takeDigits (digits ++ rest) = (digits, rest) := by
  rw [takeDigits, takeWhile_run hdigits hrest, dropWhile_run hdigits hrest]

/-- A text that does not begin with a digit has none in front. -/
theorem takeDigits_of_head (hrest : ∀ c ∈ rest.head?, isDigit c = false) :
    takeDigits rest = ([], rest) := by
  have hnone : ∀ c ∈ ([] : List Char), isDigit c = true := fun _ hc => absurd hc List.not_mem_nil
  exact takeDigits_run hnone hrest

theorem takeExponent?_chars {exponent : ℤ} (hne : exponent ≠ 0)
    (hrest : ∀ c ∈ rest.head?, isDigit c = false) :
    takeExponent? (exponentChars exponent ++ rest) = some (exponent, rest) := by
  have htake := takeDigits_run (fun c hc => isDigit_of_mem_digitsOf (n := exponent.natAbs) hc) hrest
  have hempty : (Double.digitsOf exponent.natAbs).isEmpty = false :=
    List.isEmpty_eq_false_iff.mpr (digitsOf_ne_nil _)
  rw [exponentChars, if_neg hne]
  by_cases hnegative : exponent < 0
  · have hsize : -((exponent.natAbs : ℕ) : ℤ) = exponent := by omega
    simp only [hnegative, if_true, takeExponent?, List.cons_append, true_or, htake, hempty,
      natOf_digitsOf, hsize, Bool.false_eq_true, if_false]
  · have hsize : ((exponent.natAbs : ℕ) : ℤ) = exponent := by omega
    simp only [hnegative, if_false, takeExponent?, List.cons_append, true_or, if_true, htake,
      hempty, natOf_digitsOf, hsize, Bool.false_eq_true]

theorem head_exponentChars (exponent : ℤ) (hrest : Ends rest) :
    ∀ c ∈ (exponentChars exponent ++ rest).head?, isDigit c = false ∧ c ≠ '.' := by
  unfold exponentChars
  split
  · intro c hc
    exact ⟨(hrest c hc).1, (hrest c hc).2.1⟩
  · rintro c ⟨⟩
    decide

theorem head_fractionChars (fraction : List Char) (exponent : ℤ) (hrest : Ends rest) :
    ∀ c ∈ (fractionChars fraction ++ (exponentChars exponent ++ rest)).head?,
      isDigit c = false := by
  unfold fractionChars
  split
  · intro c hc
    exact (head_exponentChars exponent hrest c hc).1
  · rintro c ⟨⟩
    decide

end Reading

theorem visible_of_isDigit {c : Char} (h : isDigit c = true) : 0x20 ≤ c.toNat := by
  have hcode := isDigit_iff.mp h
  omega

theorem visible_exponentChars (exponent : ℤ) :
    ∀ c ∈ exponentChars exponent, 0x20 ≤ c.toNat := by
  intro c hc
  unfold exponentChars at hc
  split at hc
  · cases hc
  · simp only [List.mem_cons] at hc
    rcases hc with rfl | hsign | hc
    · decide
    · rw [hsign]
      split <;> decide
    · exact visible_of_isDigit (isDigit_of_mem_digitsOf hc)

/-- There are no control characters in a numeral. -/
theorem visible_chars {n : Numeral} (hn : n.Plain) : ∀ c ∈ n.chars, 0x20 ≤ c.toNat := by
  intro c hc
  simp only [chars, List.mem_append] at hc
  rcases hc with hc | hc | hc
  · exact visible_of_isDigit (hn.isDigit c (List.mem_append_left _ hc))
  · unfold fractionChars at hc
    split at hc
    · cases hc
    · rcases List.mem_cons.mp hc with rfl | hc
      · decide
      · exact visible_of_isDigit (hn.isDigit c (List.mem_append_right _ hc))
  · exact visible_exponentChars n.exponent c hc

end Numeral

namespace Double.Scientific

open Numeral

variable {d : Scientific}

/-- Numbers without a fraction are written by position. -/
theorem numeral_whole (hd : d.WellFormed) (hplace : (d.digits.length : ℤ) ≤ d.place) :
    Numeral.Plain ⟨d.digits ++ List.replicate (d.place - d.digits.length).toNat '0', [], 0⟩ ∧
      Numeral.value ⟨d.digits ++ List.replicate (d.place - d.digits.length).toNat '0', [], 0⟩ =
        round d.value := by
  constructor
  · refine ⟨List.append_ne_nil_of_left_ne_nil hd.ne_nil _, ?_, Or.inr ?_⟩
    · intro c hc
      rw [List.append_nil] at hc
      rcases List.mem_append.mp hc with hc | hc
      · exact hd.isDigit c hc
      · rw [List.eq_of_mem_replicate hc]
        rfl
    · intro c hc
      rw [List.head?_append_of_ne_nil _ hd.ne_nil] at hc
      exact hd.head c hc
  · have hzeros : (((d.place - d.digits.length).toNat : ℕ) : ℤ) = d.place - d.digits.length :=
      Int.toNat_of_nonneg (by omega)
    rw [value_eq_round, List.append_nil, natOf_append_zeros, Scientific.value, ← hzeros]
    simp

/-- Numbers above one are written by position. -/
theorem numeral_mixed (hd : d.WellFormed) (hplace : 0 < d.place)
    (hless : d.place < d.digits.length) :
    Numeral.Plain ⟨d.digits.take d.place.toNat, d.digits.drop d.place.toNat, 0⟩ ∧
      Numeral.value ⟨d.digits.take d.place.toNat, d.digits.drop d.place.toNat, 0⟩ =
        round d.value := by
  constructor
  · refine ⟨?_, ?_, Or.inr ?_⟩
    · intro hnil
      rcases List.take_eq_nil_iff.mp hnil with hzero | hnil
      · omega
      · exact hd.ne_nil hnil
    · intro c hc
      rw [List.take_append_drop] at hc
      exact hd.isDigit c hc
    · intro c hc
      rw [List.head?_take, if_neg (by omega)] at hc
      exact hd.head c hc
  · have hscale : (0 : ℤ) - (d.digits.drop d.place.toNat).length = d.place - d.digits.length := by
      rw [List.length_drop]
      omega
    rw [value_eq_round, List.take_append_drop, hscale, Scientific.value]

/-- Numbers below one that are not too small are written by position. -/
theorem numeral_fraction (hd : d.WellFormed) (hplace : d.place ≤ 0) :
    Numeral.Plain ⟨['0'], List.replicate (-d.place).toNat '0' ++ d.digits, 0⟩ ∧
      Numeral.value ⟨['0'], List.replicate (-d.place).toNat '0' ++ d.digits, 0⟩ =
        round d.value := by
  constructor
  · refine ⟨List.cons_ne_nil _ _, ?_, Or.inl rfl⟩
    intro c hc
    have hc : c ∈ '0' :: (List.replicate (-d.place).toNat '0' ++ d.digits) := hc
    simp only [List.mem_cons, List.mem_append] at hc
    rcases hc with rfl | hc | hc
    · rfl
    · rw [List.eq_of_mem_replicate hc]
      rfl
    · exact hd.isDigit c hc
  · have hscale : (0 : ℤ) - (List.replicate (-d.place).toNat '0' ++ d.digits).length =
        d.place - d.digits.length := by
      rw [List.length_append, List.length_replicate]
      omega
    have hfront : ['0'] ++ (List.replicate (-d.place).toNat '0' ++ d.digits) =
        List.replicate ((-d.place).toNat + 1) '0' ++ d.digits := rfl
    rw [value_eq_round, hscale, hfront, natOf_zeros_append, Scientific.value]

/-- Numbers that are very large or very small are written with an exponent. -/
theorem numeral_exponent {c : Char} {digits : List Char} (hd : d.WellFormed)
    (hdigits : d.digits = c :: digits) :
    Numeral.Plain ⟨[c], digits, d.place - 1⟩ ∧
      Numeral.value ⟨[c], digits, d.place - 1⟩ = round d.value := by
  constructor
  · exact ⟨List.cons_ne_nil _ _, fun e he => hd.isDigit e (hdigits ▸ he), Or.inl rfl⟩
  · have hscale : d.place - 1 - (digits.length : ℤ) = d.place - d.digits.length := by
      rw [hdigits, List.length_cons]
      omega
    rw [value_eq_round, hscale, List.singleton_append, ← hdigits, Scientific.value]

/-- In each layout a decimal is written as a plain numeral of its value. -/
theorem exists_numeral (hd : d.WellFormed) : ∃ n : Numeral, n.Plain ∧
    (d.text layout).toList = n.chars ∧ n.value = round d.value := by
  have hwritten (whole fraction : List Char) (exponent : ℤ) :
      chars ⟨whole, fraction, exponent⟩ =
        whole ++ (fractionChars fraction ++ exponentChars exponent) := rfl
  have hlength : 0 < d.digits.length := List.length_pos_of_ne_nil hd.ne_nil
  unfold Scientific.text
  dsimp only
  by_cases hwhole : (d.digits.length : ℤ) ≤ d.place ∧ d.place < layout.firstLargePlace
  · rw [if_pos hwhole]
    obtain ⟨hplain, hvalue⟩ := numeral_whole hd hwhole.1
    refine ⟨_, hplain, ?_, hvalue⟩
    rw [String.toList_ofList, hwritten]
    simp [fractionChars, exponentChars]
  rw [if_neg hwhole]
  by_cases hmixed : 0 < d.place ∧ d.place < layout.firstLargePlace
  · rw [if_pos hmixed]
    have hless : d.place < d.digits.length := by
      apply lt_of_not_ge
      intro hle
      exact hwhole ⟨hle, hmixed.2⟩
    obtain ⟨hplain, hvalue⟩ := numeral_mixed hd hmixed.1 hless
    have hbehind : (d.digits.drop d.place.toNat).isEmpty = false := by
      apply List.isEmpty_eq_false_iff.mpr
      intro hnil
      have hdropped := congrArg List.length hnil
      rw [List.length_drop, List.length_nil] at hdropped
      omega
    refine ⟨_, hplain, ?_, hvalue⟩
    rw [String.toList_ofList, hwritten]
    simp [fractionChars, exponentChars, hbehind]
  rw [if_neg hmixed]
  by_cases hfraction : layout.lastSmallPlace ≤ d.place ∧ d.place ≤ 0
  · rw [if_pos hfraction]
    obtain ⟨hplain, hvalue⟩ := numeral_fraction hd hfraction.2
    have hne : (List.replicate (-d.place).toNat '0' ++ d.digits).isEmpty = false :=
      List.isEmpty_eq_false_iff.mpr (List.append_ne_nil_of_right_ne_nil _ hd.ne_nil)
    refine ⟨_, hplain, ?_, hvalue⟩
    rw [String.toList_ofList, hwritten, fractionChars, hne]
    simp [exponentChars]
  · rw [if_neg hfraction]
    obtain ⟨c, digits, hdigits⟩ := List.exists_cons_of_ne_nil hd.ne_nil
    have hne : d.place - 1 ≠ 0 := by
      intro hzero
      have hmany : ¬ (d.digits.length : ℤ) ≤ d.place := by
        intro hle
        exact hwhole ⟨hle, by simp only [layout]; omega⟩
      exact hmixed ⟨by omega, by simp only [layout]; omega⟩
    obtain ⟨hplain, hvalue⟩ := numeral_exponent hd hdigits
    refine ⟨_, hplain, ?_, hvalue⟩
    rw [hwritten, exponentChars, if_neg hne, hdigits]
    cases digits with
    | nil => simp [fractionChars]
    | cons e digits => simp [fractionChars]

end Double.Scientific

namespace Double

theorem Binary.neg {q : ℚ} (h : Binary q) : Binary (-q) := by
  obtain ⟨k, e, hk, he, rfl⟩ := h
  refine ⟨-k, e, by rwa [abs_neg], he, ?_⟩
  rw [Int.cast_neg, neg_mul]

/-- The opposite of a number that binary64 can hold is one. -/
theorem isExact_neg {q : ℚ} (h : (finite q).isExact = true) : (finite (-q)).isExact = true := by
  by_cases hzero : q = 0
  · rwa [hzero, neg_zero, ← hzero]
  · have hround : round q = .finite q := beq_iff_eq.mp h
    have hsize := ((round_eq_finite_iff hzero).mp hround).2
    have hopposite : round (-q) = .finite (-q) := by
      apply (round_eq_finite_iff (neg_ne_zero.mpr hzero)).mpr
      rw [abs_neg]
      exact ⟨nearest_of_binary (neg_ne_zero.mpr hzero) (binary_of_isExact h).1.neg, hsize⟩
    exact beq_iff_eq.mpr hopposite

/-- A number with a sign, as it is written. -/
def signedChars (negative : Bool) (n : Numeral) : List Char :=
  if negative then '-' :: n.chars else n.chars

/-- The text of a number that binary64 can hold is a plain numeral of its value, perhaps with a
sign. -/
theorem exists_signedChars {x : Double} (h : x.isExact = true) : ∃ (negative : Bool) (n : Numeral),
    n.Plain ∧ x.text.toList = signedChars negative n ∧
      (if negative then n.value.neg else n.value) = x := by
  obtain ⟨q, rfl⟩ := exists_eq_finite_of_isFinite (isFinite_of_isExact h)
  have htext (q : ℚ) : (finite q).text = if q = 0 then "0"
      else if q < 0 then "-" ++ (shortest (-q)).text layout else (shortest q).text layout := rfl
  rw [htext q]
  rcases lt_trichotomy q 0 with hq | rfl | hq
  · obtain ⟨hformed, hround⟩ := round_shortest (neg_pos.mpr hq) (isExact_neg h)
    obtain ⟨n, hplain, hchars, hvalue⟩ := Scientific.exists_numeral hformed
    refine ⟨true, n, hplain, ?_, ?_⟩
    · rw [if_neg hq.ne, if_pos hq, String.toList_append, hchars]
      rfl
    · rw [if_pos rfl, hvalue, hround, neg, neg_neg]
  · refine ⟨false, ⟨['0'], [], 0⟩, ⟨List.cons_ne_nil _ _, ?_, Or.inl rfl⟩, ?_, ?_⟩
    · exact Text.forall_mem_of_all (by decide)
    · decide
    · decide
  · obtain ⟨hformed, hround⟩ := round_shortest hq h
    obtain ⟨n, hplain, hchars, hvalue⟩ := Scientific.exists_numeral hformed
    refine ⟨false, n, hplain, ?_, ?_⟩
    · rw [if_neg hq.ne', if_neg hq.asymm, hchars]
      rfl
    · rw [if_neg Bool.false_ne_true, hvalue, hround]

/-- There are no control characters in the text of a number. -/
theorem visible_text {x : Double} (h : x.isExact = true) : ∀ c ∈ x.text.toList, 0x20 ≤ c.toNat := by
  obtain ⟨negative, n, hplain, htext, -⟩ := exists_signedChars h
  intro c hc
  rw [htext, signedChars] at hc
  split at hc
  · rcases List.mem_cons.mp hc with rfl | hc
    · decide
    · exact Numeral.visible_chars hplain c hc
  · exact Numeral.visible_chars hplain c hc

end Double

namespace Json

open Numeral

/-- A fraction at the front, as it may stand behind the whole part of a number. -/
def takeFraction? (cs : List Char) : Option (List Char × List Char) :=
  match cs with
  | '.' :: after =>
    if (takeDigits after).1.isEmpty then none else some (takeDigits after)
  | _ => some ([], cs)

/-- An exponent at the front, as it may stand at the end of a number. -/
def takeScale? (cs : List Char) : Option (ℤ × List Char) :=
  match cs with
  | 'e' :: _ => takeExponent? cs
  | 'E' :: _ => takeExponent? cs
  | _ => some (0, cs)

/-- A number at the front, behind its sign. -/
def readSigned? (negative : Bool) (cs : List Char) : Option (Double × List Char) :=
  let (whole, rest) := takeDigits cs
  if whole.isEmpty || (1 < whole.length && whole.head? == some '0') then none
  else
    match takeFraction? rest with
    | none => none
    | some (fraction, rest) =>
      (takeScale? rest).map fun (exponent, rest) =>
        let size := Numeral.value ⟨whole, fraction, exponent⟩
        (if negative then size.neg else size, rest)

theorem readNumber?_minus (cs : List Char) :
    readNumber? ('-' :: cs) = readSigned? true cs :=
  rfl

theorem readNumber?_of_ne {c : Char} (hc : c ≠ '-') (cs : List Char) :
    readNumber? (c :: cs) = readSigned? false (c :: cs) := by
  unfold readNumber?
  simp only [List.cons.injEq, hc, false_and, imp_false, not_false_eq_true, implies_true]
  rfl

variable {rest : List Char}

/-- A point with digits is read as it was written, if there are any. -/
theorem takeFraction?_chars {fraction : List Char}
    (hfraction : ∀ c ∈ fraction, Numeral.isDigit c = true)
    (hrest : ∀ c ∈ rest.head?, Numeral.isDigit c = false ∧ c ≠ '.') :
    takeFraction? (fractionChars fraction ++ rest) = some (fraction, rest) := by
  cases fraction with
  | nil =>
      rw [fractionChars, if_pos List.isEmpty_nil, List.nil_append]
      unfold takeFraction?
      split
      · exact absurd rfl (hrest '.' rfl).2
      · rfl
  | cons c fraction =>
      have hrun := takeDigits_run hfraction fun d hd => (hrest d hd).1
      change takeFraction? ('.' :: ((c :: fraction) ++ rest)) = _
      simp only [takeFraction?, hrun, List.isEmpty_cons, Bool.false_eq_true, if_false]

/-- An exponent is read as it was written, if it is not zero. -/
theorem takeScale?_chars (exponent : ℤ) (hrest : Ends rest) :
    takeScale? (exponentChars exponent ++ rest) = some (exponent, rest) := by
  by_cases hzero : exponent = 0
  · rw [exponentChars, if_pos hzero, List.nil_append, hzero]
    unfold takeScale?
    split
    · exact absurd rfl (hrest 'e' rfl).2.2.1
    · exact absurd rfl (hrest 'E' rfl).2.2.2
    · rfl
  · have htake := takeExponent?_chars hzero fun c hc => (hrest c hc).1
    obtain ⟨tail, htail⟩ : ∃ tail, exponentChars exponent ++ rest = 'e' :: tail := by
      rw [exponentChars, if_neg hzero]
      exact ⟨_, rfl⟩
    rw [htail] at htake ⊢
    exact htake

/-- A plain numeral is read as it was written. -/
theorem readSigned?_chars {n : Numeral} (negative : Bool) (hn : n.Plain) (hrest : Ends rest) :
    readSigned? negative (n.chars ++ rest) =
      some (if negative then n.value.neg else n.value, rest) := by
  have hdigits := takeDigits_run (fun c hc => hn.isDigit c (List.mem_append_left _ hc))
    (head_fractionChars n.fraction n.exponent hrest)
  have hfraction := takeFraction?_chars (fun c hc => hn.isDigit c (List.mem_append_right _ hc))
    (head_exponentChars n.exponent hrest)
  have hneedless : (n.whole.isEmpty || (1 < n.whole.length && n.whole.head? == some '0')) =
      false := by
    rw [List.isEmpty_eq_false_iff.mpr hn.ne_nil, Bool.false_or, Bool.and_eq_false_iff,
      decide_eq_false_iff_not]
    apply hn.head.imp
    · intro hlength
      omega
    · intro hhead
      apply beq_eq_false_iff_ne.mpr
      intro hzero
      exact hhead '0' hzero rfl
  have hparts : n.chars ++ rest = n.whole ++
      (fractionChars n.fraction ++ (exponentChars n.exponent ++ rest)) := by
    simp only [chars, List.append_assoc]
  rw [hparts]
  simp only [readSigned?, hdigits, hneedless, Bool.false_eq_true, if_false, hfraction,
    takeScale?_chars n.exponent hrest, Option.map_some]

theorem exists_cons_of_plain {n : Numeral} (hn : n.Plain) :
    ∃ c cs, n.chars = c :: cs ∧ isDigit c = true := by
  obtain ⟨c, whole, hwhole⟩ := List.exists_cons_of_ne_nil hn.ne_nil
  have hc : c ∈ n.whole ++ n.fraction := by
    rw [hwhole]
    exact List.mem_append_left _ List.mem_cons_self
  exact ⟨c, whole ++ (fractionChars n.fraction ++ exponentChars n.exponent),
    by rw [chars, hwhole, List.cons_append], hn.isDigit c hc⟩

/-- A number that binary64 can hold is read back from its text, which begins with a sign or a
digit. -/
theorem readNumber?_text {x : Double} (hx : x.isExact = true) (hrest : Ends rest) :
    readNumber? (x.text.toList ++ rest) = some (x, rest) ∧
      ∃ c cs, x.text.toList = c :: cs ∧ (c = '-' ∨ isDigit c = true) := by
  obtain ⟨negative, n, hplain, htext, hvalue⟩ := Double.exists_signedChars hx
  have hsigned := readSigned?_chars negative hplain hrest
  rw [hvalue] at hsigned
  obtain ⟨c, cs, hchars, hdigit⟩ := exists_cons_of_plain hplain
  rw [htext]
  cases negative with
  | false =>
      have hc : c ≠ '-' := by
        rintro rfl
        exact absurd hdigit (by decide)
      refine ⟨?_, c, cs, hchars, Or.inr hdigit⟩
      rw [Double.signedChars, if_neg Bool.false_ne_true, hchars, List.cons_append,
        readNumber?_of_ne hc, ← List.cons_append, ← hchars, hsigned]
  | true =>
      refine ⟨?_, '-', n.chars, rfl, Or.inl rfl⟩
      rw [Double.signedChars, if_pos rfl, List.cons_append, readNumber?_minus, hsigned]

end Json

end AlertRelay
