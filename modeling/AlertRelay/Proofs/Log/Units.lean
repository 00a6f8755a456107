import AlertRelay.Log.Sanitized
import AlertRelay.Proofs.Log.Credentials

/-!
Logged texts, unit by unit.

A logged text is a list of sixteen-bit units: a text may be cut through the middle of a character,
and a mark follows what is kept of it.  The characters of credentials take one unit each, and no
half of a character is one of these units, so that among the units of a text there is a credential
just if there is one in the text (`occursIn_textUnits`).  In a logged text there is none
(`not_occursIn_ofText`).
-/

namespace AlertRelay.Log

open AlertRelay.Text

/-- The sixteen-bit units of a character. -/
def charUnits (c : Char) : List Nat :=
  if c.toNat < 0x10000 then [c.toNat] else [leadUnit c, trailUnit c]

/-- The sixteen-bit units of a text. -/
def textUnits (cs : List Char) : List Nat :=
  cs.flatMap charUnits

/-- The sixteen-bit units of a logged text. -/
def LogText.units : LogText → List Nat
  | .whole s => textUnits s
  | .cutOff kept half omitted => textUnits kept ++ half.toList ++ textUnits (omissionMark omitted)

/-- Whether a credential stands somewhere among units. -/
def Credential.OccursIn (k : Credential) (us : List Nat) : Prop :=
  ∃ m, k.Spells m ∧ textUnits m <:+: us

section Surrogates

theorem toNat_not_surrogate (c : Char) :
    c.toNat < 0xD800 ∨ 0xE000 ≤ c.toNat ∧ c.toNat < 0x110000 := by
  have h := c.valid
  change c.toNat < 0xD800 ∨ (0xDFFF < c.toNat ∧ c.toNat < 0x110000) at h
  omega

theorem leadUnit_bounds {c : Char} (hc : ¬ c.toNat < 0x10000) :
    0xD800 ≤ leadUnit c ∧ leadUnit c < 0xE000 := by
  have := toNat_not_surrogate c
  unfold leadUnit
  omega

theorem trailUnit_bounds (c : Char) : 0xD800 ≤ trailUnit c ∧ trailUnit c < 0xE000 := by
  unfold trailUnit
  omega

/-- The half that a cut leaves is no character. -/
theorem half_of_cut {n u : Nat} {cs : List Char} (hcut : (cut n cs).2 = some u) :
    0xD800 ≤ u ∧ u < 0xE000 := by
  induction cs generalizing n with
  | nil => cases hcut
  | cons c cs ih =>
      unfold cut at hcut
      split at hcut
      · exact ih hcut
      · next hlong =>
          split at hcut
          · cases hcut
          · next hzero =>
              cases hcut
              refine leadUnit_bounds fun hc => ?_
              rw [unitsOf, if_pos hc] at hlong
              omega

end Surrogates

section Infixes

variable {m cs : List Char}

theorem textUnits_of_plain (hm : ∀ c ∈ m, c.toNat < 0x10000) : textUnits m = m.map Char.toNat := by
  induction m with
  | nil => rfl
  | cons c m ih =>
      rw [textUnits, List.flatMap_cons, charUnits, if_pos (hm c List.mem_cons_self), List.map_cons,
        ← ih fun d hd => hm d (List.mem_cons_of_mem c hd)]
      rfl

theorem not_prefix_surrogate {u : Nat} {us : List Nat} (hm : m ≠ [])
    (hu : 0xD800 ≤ u ∧ u < 0xE000) : ¬ m.map Char.toNat <+: u :: us := by
  intro h
  obtain ⟨c, m, rfl⟩ := List.exists_cons_of_ne_nil hm
  obtain ⟨hc, -⟩ := List.cons_prefix_cons.mp h
  have := toNat_not_surrogate c
  omega

theorem prefix_of_textUnits (h : m.map Char.toNat <+: textUnits cs) : m <+: cs := by
  induction m generalizing cs with
  | nil => exact List.nil_prefix
  | cons d m ih =>
      cases cs with
      | nil => exact absurd (List.prefix_nil.mp h) (by simp)
      | cons c cs =>
          rw [textUnits, List.flatMap_cons, charUnits] at h
          split at h
          · obtain ⟨hd, htail⟩ := List.cons_prefix_cons.mp h
            rw [Char.toNat_inj.mp hd]
            exact (List.prefix_cons_inj c).mpr (ih htail)
          · next hc =>
              exact absurd h (not_prefix_surrogate (List.cons_ne_nil d m) (leadUnit_bounds hc))

theorem infix_of_textUnits (hm : m ≠ []) (h : m.map Char.toNat <:+: textUnits cs) :
    m <:+: cs := by
  induction cs with
  | nil => exact absurd (List.infix_nil.mp h) (by simpa using hm)
  | cons c cs ih =>
      have hsplit : textUnits (c :: cs) = charUnits c ++ textUnits cs := rfl
      by_cases hc : c.toNat < 0x10000
      · rw [hsplit, charUnits, if_pos hc] at h
        rcases List.infix_cons_iff.mp h with hstart | hpart
        · refine (prefix_of_textUnits ?_).isInfix
          rw [hsplit, charUnits, if_pos hc]
          exact hstart
        · exact (ih hpart).trans (List.suffix_cons c cs).isInfix
      · rw [hsplit, charUnits, if_neg hc] at h
        rcases List.infix_cons_iff.mp h with hstart | hpart
        · exact absurd hstart (not_prefix_surrogate hm (leadUnit_bounds hc))
        · rcases List.infix_cons_iff.mp hpart with hstart | hpart
          · exact absurd hstart (not_prefix_surrogate hm (trailUnit_bounds c))
          · exact (ih hpart).trans (List.suffix_cons c cs).isInfix

end Infixes

/-- The characters of credentials take one unit each. -/
theorem Credential.Spells.toNat_lt {k : Credential} {m : List Char} (h : k.Spells m) :
    ∀ c ∈ m, c.toNat < 0x10000 := by
  intro c hc
  rcases h.mem_cases c hc with hbearer | hblank | rfl
  · simp only [isBearerChar, Bool.or_eq_true, beq_iff_eq] at hbearer
    rcases hbearer with (((((h | rfl) | rfl) | rfl) | rfl) | rfl) | rfl
    · have := toNat_of_isAlphanum h
      omega
    all_goals decide
  · simp only [isBlank, Bool.or_eq_true, Bool.and_eq_true, decide_eq_true_eq, beq_iff_eq] at hblank
    omega
  · decide

/-- Among the units of a text there is a credential just if there is one in the text. -/
theorem occursIn_textUnits {k : Credential} {cs : List Char} :
    k.OccursIn (textUnits cs) ↔ k.Occurs cs := by
  constructor
  · rintro ⟨m, hm, h⟩
    rw [textUnits_of_plain hm.toNat_lt] at h
    exact ⟨m, hm, infix_of_textUnits hm.ne_nil h⟩
  · rintro ⟨m, hm, a, b, rfl⟩
    exact ⟨m, hm, textUnits a, textUnits b, by simp [textUnits]⟩

/-- Where no credential begins there is none. -/
theorem not_occurs_of_no_initial {cs : List Char}
    (h : ∀ c ∈ cs, ¬ Credential.isInitial c = true) (k : Credential) : ¬ k.Occurs cs := by
  rintro ⟨m, hm, hpart⟩
  obtain ⟨c, hc, hinitial⟩ := hm.exists_initial
  exact h c (hpart.mem hc) hinitial

theorem no_initial_of_isDigit {c : Char} (h : c.isDigit = true) :
    ¬ Credential.isInitial c = true := by
  have hsmall : ¬ c.isUpper = true := by
    rw [isUpper_iff]
    rw [isDigit_iff] at h
    omega
  simp only [Credential.isInitial, toLower_of_not_isUpper hsmall, Bool.or_eq_true, beq_iff_eq]
  rintro (rfl | rfl) <;> exact absurd h (by decide)

theorem no_initial_of_mem_digitsOf {n : Nat} :
    ∀ c ∈ Double.digitsOf n, ¬ Credential.isInitial c = true :=
  fun _ hc => no_initial_of_isDigit (Nat.isDigit_of_mem_toDigits (by decide) (by decide) hc)

/-- The mark after a text that was cut: a character that no credential has, and others with which
none begins. -/
theorem omissionMark_eq (n : Nat) : ∃ tail, omissionMark n = '…' :: tail ∧
    ∀ c ∈ tail, ¬ Credential.isInitial c = true := by
  refine ⟨"(+".toList ++ Double.digitsOf n ++ " chars)".toList, rfl, ?_⟩
  have hfront : ∀ c ∈ "(+".toList, ¬ Credential.isInitial c = true :=
    List.any_eq_false.mp (by decide)
  have hback : ∀ c ∈ " chars)".toList, ¬ Credential.isInitial c = true :=
    List.any_eq_false.mp (by decide)
  intro c hc
  simp only [List.mem_append] at hc
  rcases hc with (hc | hc) | hc
  · exact hfront c hc
  · exact no_initial_of_mem_digitsOf c hc
  · exact hback c hc

/-- No unit of a credential is half of a character, or the first one of a mark of omission. -/
theorem Credential.Spells.not_mem_textUnits {k : Credential} {m : List Char} (h : k.Spells m)
    {u : Nat} (hu : 0xD800 ≤ u ∧ u < 0xE000 ∨ u = '…'.toNat) : u ∉ textUnits m := by
  rw [textUnits_of_plain h.toNat_lt]
  intro hmem
  obtain ⟨c, hc, rfl⟩ := List.mem_map.mp hmem
  rcases hu with hu | hu
  · have := toNat_not_surrogate c
    omega
  · rw [Char.toNat_inj.mp hu] at hc
    rcases h.mem_cases _ hc with h | h | h <;> revert h <;> decide

namespace LogText

/-- A text is logged without credentials, whole or cut. -/
theorem not_occursIn_ofText (s : String) (k : Credential) : ¬ k.OccursIn (ofText s).units := by
  unfold ofText
  simp only
  split
  · rw [units, occursIn_textUnits]
    exact not_occurs_redact k s.toList
  · rintro ⟨m, hm, hpart⟩
    obtain ⟨tail, htail, hnone⟩ := omissionMark_eq (unitCount (redact s.toList) - maxText)
    have hmark : textUnits ('…' :: tail) = '…'.toNat :: textUnits tail := rfl
    simp only [units, htail, hmark] at hpart
    have hkept : ¬ k.OccursIn (textUnits (cut maxText (redact s.toList)).1) := by
      rw [occursIn_textUnits]
      rintro ⟨m', hm', h⟩
      exact not_occurs_redact k s.toList ⟨m', hm', h.trans (cut_isPrefix _ _).isInfix⟩
    rcases infix_of_infix_append_cons hpart (hm.not_mem_textUnits (Or.inr rfl)) with
      hpart | hpart
    · cases hhalf : (cut maxText (redact s.toList)).2 with
      | none =>
          rw [hhalf, Option.toList_none, List.append_nil] at hpart
          exact hkept ⟨m, hm, hpart⟩
      | some u =>
          rw [hhalf, Option.toList_some] at hpart
          have hu := hm.not_mem_textUnits (Or.inl (half_of_cut hhalf))
          rcases infix_of_infix_append_cons hpart hu with hpart | hpart
          · exact hkept ⟨m, hm, hpart⟩
          · have hnil := List.infix_nil.mp hpart
            rw [textUnits_of_plain hm.toNat_lt, List.map_eq_nil_iff] at hnil
            exact hm.ne_nil hnil
    · exact not_occurs_of_no_initial hnone k (occursIn_textUnits.mp ⟨m, hm, hpart⟩)

/-- A short text without credentials is logged as it is. -/
theorem ofText_of_not_occurs {s : String} (hclean : ∀ k : Credential, ¬ k.Occurs s.toList)
    (hlength : unitCount s.toList ≤ maxText) : ofText s = .whole s.toList := by
  unfold ofText
  simp only [redact_of_not_occurs hclean, if_pos hlength]

end LogText

end AlertRelay.Log
