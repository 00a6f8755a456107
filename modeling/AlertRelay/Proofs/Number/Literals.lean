import AlertRelay.Number.OfText
import AlertRelay.Proofs.Number.Grammar

/-!
Texts that stand for numbers, by their grammar.

A literal is `Infinity` or a decimal, with or without a sign, or digits of another base after its
mark; `Spells` is a text with a literal and nothing but white space around it.  The number of a
decimal is the one nearest to what it writes.  Main statement: a text is read as a number exactly if
it spells that number, or is blank and the number is zero (`ofText_eq_iff`).
-/

namespace AlertRelay

open AlertRelay.Text

namespace Double

open Numeral

/-- The marks of other bases. -/
def baseMarks : List (Char × ℕ) :=
  [('x', 16), ('X', 16), ('o', 8), ('O', 8), ('b', 2), ('B', 2)]

/-- A number without a sign, in decimal or by its name. -/
inductive Unsigned : List Char → Double → Prop
  | infinity : Unsigned "Infinity".toList .posInf
  | decimal {cs : List Char} {q : ℚ} (written : Decimal cs q) : Unsigned cs (round q)

/-- A literal and its number.  Digits of another base go without a sign. -/
inductive Literal : List Char → Double → Prop
  | plain {cs : List Char} {x : Double} (unsigned : Unsigned cs x) : Literal cs x
  | plus {cs : List Char} {x : Double} (unsigned : Unsigned cs x) : Literal ('+' :: cs) x
  | minus {cs : List Char} {x : Double} (unsigned : Unsigned cs x) : Literal ('-' :: cs) x.neg
  | based {mark : Char} {base : ℕ} {cs : List Char} {n : ℕ} (marked : (mark, base) ∈ baseMarks)
      (digits : Digits base cs n) : Literal ('0' :: mark :: cs) (round n)

/-- Whether a text is empty or white space. -/
def Blank (s : String) : Prop :=
  ∀ c ∈ s.toList, isBlank c = true

instance (s : String) : Decidable (Blank s) :=
  decidable_of_iff (s.toList.all isBlank = true) List.all_eq_true

/-- Whether a text is the literal of a number with nothing but white space around it. -/
def Spells (s : String) (x : Double) : Prop :=
  ∃ before cs after, s.toList = before ++ (cs ++ after) ∧ (∀ c ∈ before, isBlank c = true) ∧
    (∀ c ∈ after, isBlank c = true) ∧ Literal cs x

section Unsigned

theorem round_ne_nan (q : ℚ) : round q ≠ .nan := by
  by_cases hq : q = 0
  · subst hq
    exact fun h => nomatch h
  · rw [round_of_ne_zero hq]
    split_ifs <;> exact fun h => nomatch h

theorem neg_ne_nan_iff {x : Double} : x.neg ≠ .nan ↔ x ≠ .nan := by
  cases x <;> simp [neg]

theorem Unsigned.ne_nan {cs : List Char} {x : Double} (h : Unsigned cs x) : x ≠ .nan := by
  cases h with
  | infinity => exact fun h => nomatch h
  | decimal written => exact round_ne_nan _

theorem Literal.ne_nan {cs : List Char} {x : Double} (h : Literal cs x) : x ≠ .nan := by
  cases h with
  | plain unsigned => exact unsigned.ne_nan
  | plus unsigned => exact unsigned.ne_nan
  | minus unsigned => exact neg_ne_nan_iff.mpr unsigned.ne_nan
  | based => exact round_ne_nan _

/-- The name of infinity is no decimal. -/
theorem take?_infinity : Numeral.take? "Infinity".toList = none := by
  decide

/-- What is read without a sign is what the grammar says. -/
theorem ofUnsigned_eq_iff {cs : List Char} {x : Double} (hx : x ≠ .nan) :
    ofUnsigned cs = x ↔ Unsigned cs x := by
  constructor
  · rintro rfl
    unfold ofUnsigned at hx ⊢
    split_ifs at hx ⊢ with hname
    · rw [hname]
      exact .infinity
    · split at hx
      · next n htake =>
          rw [value_eq_round_exact]
          exact .decimal (decimal_of_take? htake)
      · exact absurd rfl hx
  · intro h
    unfold ofUnsigned
    cases h with
    | infinity => rfl
    | decimal written =>
        obtain ⟨n, htake, rfl⟩ := written.take?
        have hname : cs ≠ "Infinity".toList := by
          rintro rfl
          cases take?_infinity.symm.trans htake
        rw [if_neg hname, htake, ← value_eq_round_exact]

end Unsigned

section Literals

/-- Digits of a base are read to their end as what they write. -/
theorem ofBaseDigits_eq_iff {base : ℕ} (hbase : base ≤ 16) {cs : List Char} {x : Double}
    (hx : x ≠ .nan) : ofBaseDigits base cs = x ↔ ∃ n : ℕ, Digits base cs n ∧ round n = x := by
  have htest : (!cs.isEmpty && cs.all (digitValue · < base)) = true ↔
      cs ≠ [] ∧ ∀ c ∈ cs, digitValue c < base := by
    simp
  unfold ofBaseDigits
  constructor
  · intro h
    split_ifs at h with hdigits
    · obtain ⟨hne, hall⟩ := htest.mp hdigits
      exact ⟨natOf base cs, (digits_iff hbase).mpr ⟨hne, hall, rfl⟩, h⟩
    · exact absurd h.symm hx
  · rintro ⟨n, hdigits, rfl⟩
    obtain ⟨hne, hall, rfl⟩ := (digits_iff hbase).mp hdigits
    rw [if_pos (htest.mpr ⟨hne, hall⟩)]
    rfl

/-- A text without white space around it as a number. -/
def ofTrimmed : List Char → Double
  | [] => 0
  | '0' :: 'x' :: digits => ofBaseDigits 16 digits
  | '0' :: 'X' :: digits => ofBaseDigits 16 digits
  | '0' :: 'o' :: digits => ofBaseDigits 8 digits
  | '0' :: 'O' :: digits => ofBaseDigits 8 digits
  | '0' :: 'b' :: digits => ofBaseDigits 2 digits
  | '0' :: 'B' :: digits => ofBaseDigits 2 digits
  | '-' :: rest => (ofUnsigned rest).neg
  | '+' :: rest => ofUnsigned rest
  | cs => ofUnsigned cs

theorem ofText_eq (s : String) : ofText s = ofTrimmed (trimBy isBlank s.toList) :=
  rfl

/-- No mark of a base can go on with a decimal. -/
theorem baseMarks_spec : ∀ m ∈ baseMarks,
    m.2 ≤ 16 ∧ isDigit m.1 = false ∧ m.1 ≠ '.' ∧ m.1 ≠ 'e' ∧ m.1 ≠ 'E' := by
  decide

theorem ofTrimmed_based {mark : Char} {base : ℕ} (h : (mark, base) ∈ baseMarks)
    (rest : List Char) : ofTrimmed ('0' :: mark :: rest) = ofBaseDigits base rest := by
  simp only [baseMarks, List.mem_cons, Prod.mk.injEq, List.not_mem_nil, or_false] at h
  rcases h with ⟨rfl, rfl⟩ | ⟨rfl, rfl⟩ | ⟨rfl, rfl⟩ | ⟨rfl, rfl⟩ | ⟨rfl, rfl⟩ | ⟨rfl, rfl⟩ <;> rfl

/-- What a text is read as is decided by how it begins. -/
theorem ofTrimmed_cases {cs : List Char} (hne : cs ≠ []) :
    (∃ mark base rest, (mark, base) ∈ baseMarks ∧ cs = '0' :: mark :: rest ∧
        ofTrimmed cs = ofBaseDigits base rest) ∨
      (∃ rest, cs = '-' :: rest ∧ ofTrimmed cs = (ofUnsigned rest).neg) ∨
      (∃ rest, cs = '+' :: rest ∧ ofTrimmed cs = ofUnsigned rest) ∨
      ofTrimmed cs = ofUnsigned cs := by
  unfold ofTrimmed
  split
  · exact absurd rfl hne
  · exact .inl ⟨'x', 16, _, by decide, rfl, rfl⟩
  · exact .inl ⟨'X', 16, _, by decide, rfl, rfl⟩
  · exact .inl ⟨'o', 8, _, by decide, rfl, rfl⟩
  · exact .inl ⟨'O', 8, _, by decide, rfl, rfl⟩
  · exact .inl ⟨'b', 2, _, by decide, rfl, rfl⟩
  · exact .inl ⟨'B', 2, _, by decide, rfl, rfl⟩
  · exact .inr (.inl ⟨_, rfl, rfl⟩)
  · exact .inr (.inr (.inl ⟨_, rfl, rfl⟩))
  · exact .inr (.inr (.inr rfl))

/-- A decimal has no sign of its own. -/
theorem ofUnsigned_sign {c : Char} (hc : c = '-' ∨ c = '+') (rest : List Char) :
    ofUnsigned (c :: rest) = .nan := by
  have hdigit : isDigit c = false ∧ c ≠ '.' ∧ c ≠ 'I' := by
    rcases hc with rfl | rfl <;> decide
  have hname : c :: rest ≠ "Infinity".toList := fun h => hdigit.2.2 (List.cons.inj h).1
  have hnone : takeDigits (c :: rest) = ([], c :: rest) :=
    takeDigits_of_head (by rintro d ⟨⟩; exact hdigit.1)
  have hpoint : takeFraction (c :: rest) = ([], c :: rest) :=
    takeFraction_of_ne (by rintro d ⟨⟩; exact hdigit.2.1)
  have htake : Numeral.take? (c :: rest) = none := by
    rw [take?_eq, hnone]
    simp only [hpoint, List.isEmpty_nil, Bool.and_self, if_true]
  rw [ofUnsigned, if_neg hname, htake]

/-- Digits of another base are no decimal. -/
theorem ofUnsigned_marked {mark : Char} {base : ℕ} (h : (mark, base) ∈ baseMarks)
    (rest : List Char) : ofUnsigned ('0' :: mark :: rest) = .nan := by
  obtain ⟨_, hdigit, hpoint, he, hE⟩ := baseMarks_spec _ h
  have hname : '0' :: mark :: rest ≠ "Infinity".toList :=
    fun h => absurd (List.cons.inj h).1 (by decide)
  have hone : ∀ c ∈ ['0'], isDigit c = true := List.forall_mem_singleton.mpr rfl
  have hzero : takeDigits ('0' :: mark :: rest) = (['0'], mark :: rest) :=
    takeDigits_run hone (by rintro d ⟨⟩; exact hdigit)
  have hnone : takeFraction (mark :: rest) = ([], mark :: rest) :=
    takeFraction_of_ne (by rintro d ⟨⟩; exact hpoint)
  have hexponent : takeExponent? (mark :: rest) = none := by
    rw [takeExponent?_cons, if_neg (not_or.mpr ⟨he, hE⟩)]
  have htake : Numeral.take? ('0' :: mark :: rest) = some (⟨['0'], [], 0⟩, mark :: rest) := by
    rw [take?_eq, hzero]
    simp only [hnone, hexponent]
    rfl
  rw [ofUnsigned, if_neg hname, htake]

/-- A text without white space around it is read as a number exactly if it is its literal. -/
theorem ofTrimmed_eq_iff {cs : List Char} (hne : cs ≠ []) {x : Double} (hx : x ≠ .nan) :
    ofTrimmed cs = x ↔ Literal cs x := by
  constructor
  · intro h
    rcases ofTrimmed_cases hne with ⟨mark, base, rest, hmark, rfl, hread⟩ | ⟨rest, rfl, hread⟩ |
      ⟨rest, rfl, hread⟩ | hread
    · obtain ⟨n, hdigits, rfl⟩ :=
        (ofBaseDigits_eq_iff (baseMarks_spec _ hmark).1 hx).mp (hread.symm.trans h)
      exact .based hmark hdigits
    · have hnegated : (ofUnsigned rest).neg = x := hread.symm.trans h
      rw [← hnegated] at hx ⊢
      exact .minus ((ofUnsigned_eq_iff (neg_ne_nan_iff.mp hx)).mp rfl)
    · exact .plus ((ofUnsigned_eq_iff hx).mp (hread.symm.trans h))
    · exact .plain ((ofUnsigned_eq_iff hx).mp (hread.symm.trans h))
  · intro h
    cases h with
    | plain unsigned =>
        have hplain := (ofUnsigned_eq_iff hx).mpr unsigned
        rcases ofTrimmed_cases hne with ⟨mark, base, rest, hmark, rfl, _⟩ | ⟨rest, rfl, _⟩ |
          ⟨rest, rfl, _⟩ | hread
        · exact absurd (hplain.symm.trans (ofUnsigned_marked hmark rest)) hx
        · exact absurd (hplain.symm.trans (ofUnsigned_sign (.inl rfl) rest)) hx
        · exact absurd (hplain.symm.trans (ofUnsigned_sign (.inr rfl) rest)) hx
        · exact hread.trans hplain
    | plus unsigned => exact (ofUnsigned_eq_iff hx).mpr unsigned
    | minus unsigned => exact congrArg neg ((ofUnsigned_eq_iff unsigned.ne_nan).mpr unsigned)
    | based hmark hdigits =>
        rw [ofTrimmed_based hmark]
        exact (ofBaseDigits_eq_iff (baseMarks_spec _ hmark).1 hx).mpr ⟨_, hdigits, rfl⟩

end Literals

section Visible

theorem isBlank_of_visible {c : Char} (h : 0x21 ≤ c.toNat ∧ c.toNat < 0x7F) :
    isBlank c = false := by
  simp only [isBlank, Bool.or_eq_false_iff, Bool.and_eq_false_iff, beq_eq_false_iff_ne,
    decide_eq_false_iff_not]
  omega

/-- Whether there are characters in a text, and no white space among them. -/
def Visible (cs : List Char) : Prop :=
  cs ≠ [] ∧ ∀ c ∈ cs, isBlank c = false

theorem Visible.cons {c : Char} {cs : List Char} (hc : isBlank c = false)
    (hcs : ∀ d ∈ cs, isBlank d = false) : Visible (c :: cs) :=
  ⟨List.cons_ne_nil c cs, List.forall_mem_cons.mpr ⟨hc, hcs⟩⟩

theorem Visible.append {cs ds : List Char} (hcs : Visible cs)
    (hds : ∀ d ∈ ds, isBlank d = false) : Visible (cs ++ ds) :=
  ⟨List.append_ne_nil_of_left_ne_nil hcs.1 ds, List.forall_mem_append.mpr ⟨hcs.2, hds⟩⟩

theorem visible_digits {base : ℕ} (hbase : base ≤ 16) {cs : List Char} {n : ℕ}
    (h : Digits base cs n) : Visible cs := by
  obtain ⟨hne, hall, _⟩ := (digits_iff hbase).mp h
  refine ⟨hne, fun c hc => isBlank_of_visible ?_⟩
  have hcode := toNat_of_digitValue_lt (lt_of_lt_of_le (hall c hc) hbase)
  omega

theorem visible_exponent {xs : List Char} {e : ℤ} (h : Exponent xs e) :
    ∀ c ∈ xs, isBlank c = false := by
  have hmark {mark : Char} (hmark : mark = 'e' ∨ mark = 'E') : isBlank mark = false := by
    rcases hmark with rfl | rfl <;> rfl
  cases h with
  | none => exact fun _ hc => absurd hc List.not_mem_nil
  | plain marked digits =>
      exact (Visible.cons (hmark marked) (visible_digits (by decide) digits).2).2
  | plus marked digits =>
      have hsigned := Visible.cons (c := '+') rfl (visible_digits (by decide) digits).2
      exact (Visible.cons (hmark marked) hsigned.2).2
  | minus marked digits =>
      have hsigned := Visible.cons (c := '-') rfl (visible_digits (by decide) digits).2
      exact (Visible.cons (hmark marked) hsigned.2).2

theorem visible_decimal {cs : List Char} {q : ℚ} (h : Decimal cs q) : Visible cs := by
  cases h with
  | whole digits exponent =>
      exact (visible_digits (by decide) digits).append (visible_exponent exponent)
  | pointed digits exponent =>
      exact (visible_digits (by decide) digits).append
        (Visible.cons (c := '.') rfl (visible_exponent exponent)).2
  | mixed digits fraction exponent =>
      have hbehind := (visible_digits (by decide) fraction).append (visible_exponent exponent)
      exact (visible_digits (by decide) digits).append (Visible.cons (c := '.') rfl hbehind.2).2
  | fraction fraction exponent =>
      have hbehind := (visible_digits (by decide) fraction).append (visible_exponent exponent)
      exact Visible.cons rfl hbehind.2

theorem visible_unsigned {cs : List Char} {x : Double} (h : Unsigned cs x) : Visible cs := by
  cases h with
  | infinity => exact ⟨by decide, forall_mem_of_all (by decide)⟩
  | decimal written => exact visible_decimal written

/-- There is no white space in a literal. -/
theorem visible_literal {cs : List Char} {x : Double} (h : Literal cs x) : Visible cs := by
  cases h with
  | plain unsigned => exact visible_unsigned unsigned
  | plus unsigned => exact Visible.cons rfl (visible_unsigned unsigned).2
  | minus unsigned => exact Visible.cons rfl (visible_unsigned unsigned).2
  | @based mark _ _ _ marked digits =>
      have hmark : ∀ m ∈ baseMarks, isBlank m.1 = false := by decide
      have hbehind := visible_digits (baseMarks_spec _ marked).1 digits
      exact Visible.cons rfl (Visible.cons (hmark _ marked) hbehind.2).2

end Visible

/-- A text with nothing but white space around something visible is that. -/
theorem spells_iff {s : String} {x : Double} :
    Spells s x ↔ Literal (trimBy isBlank s.toList) x := by
  constructor
  · rintro ⟨before, cs, after, hs, hbefore, hafter, hliteral⟩
    obtain ⟨hne, hvisible⟩ := visible_literal hliteral
    have hhead : ∀ c ∈ cs.head?, isBlank c = false :=
      fun c hc => hvisible c (List.mem_of_mem_head? hc)
    have hlast : ∀ c ∈ cs.getLast?, isBlank c = false :=
      fun c hc => hvisible c (List.mem_of_getLast? hc)
    rwa [hs, trimBy_append hbefore hafter hne hhead hlast]
  · intro h
    obtain ⟨before, after, hs, hbefore, hafter⟩ := exists_append_trimBy isBlank s.toList
    exact ⟨before, _, after, hs, hbefore, hafter, h⟩

/-- A text is read as a number exactly if it is blank and the number is zero, or if it spells the
number. -/
theorem ofText_eq_iff {s : String} {x : Double} (hx : x ≠ .nan) :
    ofText s = x ↔ Blank s ∧ x = 0 ∨ Spells s x := by
  rw [ofText_eq, spells_iff]
  by_cases hnil : trimBy isBlank s.toList = []
  · have hblank : Blank s := trimBy_eq_nil_iff.mp hnil
    rw [hnil]
    constructor
    · rintro rfl
      exact .inl ⟨hblank, rfl⟩
    · rintro (⟨_, rfl⟩ | hliteral)
      · rfl
      · exact absurd rfl (visible_literal hliteral).1
  · have hblank : ¬ Blank s := fun h => hnil (trimBy_eq_nil_iff.mpr h)
    rw [ofTrimmed_eq_iff hnil hx]
    constructor
    · exact Or.inr
    · rintro (⟨h, _⟩ | hliteral)
      · exact absurd h hblank
      · exact hliteral

theorem ofText_of_blank {s : String} (h : Blank s) : ofText s = 0 := by
  have hzero : (0 : Double) ≠ .nan := by decide +kernel
  exact (ofText_eq_iff hzero).mpr (.inl ⟨h, rfl⟩)

theorem ofText_of_spells {s : String} {x : Double} (h : Spells s x) : ofText s = x := by
  obtain ⟨_, _, _, _, _, _, hliteral⟩ := id h
  exact (ofText_eq_iff hliteral.ne_nan).mpr (.inr h)

/-- A text that spells a number is not blank. -/
theorem Spells.not_blank {s : String} {x : Double} (h : Spells s x) : ¬ Blank s := by
  intro hblank
  have hnil : trimBy isBlank s.toList = [] := trimBy_eq_nil_iff.mpr hblank
  have hliteral := spells_iff.mp h
  rw [hnil] at hliteral
  exact (visible_literal hliteral).1 rfl

end Double

end AlertRelay
