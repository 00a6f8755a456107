/-!
Letters and digits by their codes.

The classes of characters of ASCII are ranges of codes; only capitals have other small letters.
-/

namespace AlertRelay.Text

/-- A text that is given is gone through character by character: not all characters there are. -/
theorem forall_mem_of_all {cs : List Char} {P : Char → Prop} [DecidablePred P]
    (h : cs.all (fun c => decide (P c)) = true) : ∀ c ∈ cs, P c := by
  simpa using h

theorem isUpper_iff {c : Char} : c.isUpper = true ↔ 65 ≤ c.toNat ∧ c.toNat ≤ 90 := by
  change decide ('A'.val ≤ c.val ∧ c.val ≤ 'Z'.val) = true ↔ _
  simp [UInt32.le_iff_toNat_le]

theorem isLower_iff {c : Char} : c.isLower = true ↔ 97 ≤ c.toNat ∧ c.toNat ≤ 122 := by
  change (decide ('a'.val ≤ c.val) && decide (c.val ≤ 'z'.val)) = true ↔ _
  simp [UInt32.le_iff_toNat_le]

theorem isDigit_iff {c : Char} : c.isDigit = true ↔ 48 ≤ c.toNat ∧ c.toNat ≤ 57 := by
  change (decide ('0'.val ≤ c.val) && decide (c.val ≤ '9'.val)) = true ↔ _
  simp [UInt32.le_iff_toNat_le]

theorem isAlphanum_iff {c : Char} :
    c.isAlphanum = true ↔ (c.isUpper = true ∨ c.isLower = true) ∨ c.isDigit = true := by
  change ((c.isUpper || c.isLower) || c.isDigit) = true ↔ _
  simp

theorem toNat_of_isAlphanum {c : Char} (h : c.isAlphanum = true) :
    48 ≤ c.toNat ∧ c.toNat < 123 := by
  simp only [isAlphanum_iff, isUpper_iff, isLower_iff, isDigit_iff] at h
  omega

/-- A character that is no capital is its own small letter. -/
theorem toLower_of_not_isUpper {c : Char} (h : ¬ c.isUpper = true) : c.toLower = c := by
  have hrange : ¬ (c.val ≥ 'A'.val ∧ c.val ≤ 'Z'.val) := mt isUpper_iff.mpr h
  exact dif_neg hrange

theorem isAlphanum_of_toLower {c : Char} (h : c.toLower.isAlphanum = true) :
    c.isAlphanum = true := by
  by_cases hupper : c.isUpper = true
  · exact isAlphanum_iff.mpr (Or.inl (Or.inl hupper))
  · rwa [toLower_of_not_isUpper hupper] at h

theorem isAlpha_iff {c : Char} : c.isAlpha = true ↔ c.isUpper = true ∨ c.isLower = true := by
  change (c.isUpper || c.isLower) = true ↔ _
  simp

/-- The code of the small letter of a capital. -/
theorem toNat_toLower_of_isUpper {c : Char} (h : c.isUpper = true) :
    c.toLower.toNat = c.toNat + 32 := by
  obtain ⟨hlow, hhigh⟩ := isUpper_iff.mp h
  have hrange : c.val ≥ 'A'.val ∧ c.val ≤ 'Z'.val := by
    simpa [UInt32.le_iff_toNat_le] using And.intro hlow hhigh
  have hcode : c.toLower.val = c.val + ('a'.val - 'A'.val) := by
    unfold Char.toLower
    rw [dif_pos hrange]
  change c.toLower.val.toNat = c.val.toNat + 32
  change c.val.toNat ≤ 90 at hhigh
  rw [hcode, UInt32.toNat_add]
  have hgap : ('a'.val - 'A'.val).toNat = 32 := by decide
  omega

/-- Only letters become small letters. -/
theorem eq_of_toLower_eq {c d : Char} (hd : ¬ d.isLower = true) (h : c.toLower = d) : c = d := by
  by_cases hupper : c.isUpper = true
  · have hcode := toNat_toLower_of_isUpper hupper
    rw [isUpper_iff] at hupper
    rw [isLower_iff, ← h] at hd
    omega
  · rwa [toLower_of_not_isUpper hupper] at h

theorem isAlpha_of_toLower {c : Char} (h : c.toLower.isAlpha = true) : c.isAlpha = true := by
  by_cases hupper : c.isUpper = true
  · exact isAlpha_iff.mpr (Or.inl hupper)
  · rwa [toLower_of_not_isUpper hupper] at h

end AlertRelay.Text
