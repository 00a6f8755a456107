import AlertRelay.Number.Reading
import AlertRelay.Proofs.Text.Letters
import Mathlib.Tactic.Ring

/-!
Decimal digits.

The digits of a number are read as that number (`natOf_digitsOf`), and there are so many of them as
its size asks for (`digitsOf_bounds`); digits that follow others move these to the left
(`natOf_append`), and zeros in front of others do not count (`natOf_zeros_append`).
-/

namespace AlertRelay

namespace Numeral

open AlertRelay.Double

theorem isDigit_iff {c : Char} : isDigit c = true ↔ 48 ≤ c.toNat ∧ c.toNat ≤ 57 := by
  rw [isDigit, Bool.and_eq_true, decide_eq_true_eq, decide_eq_true_eq]
  exact Iff.rfl

theorem isDigit_of_char {c : Char} (h : c.isDigit = true) : isDigit c = true :=
  isDigit_iff.mpr (AlertRelay.Text.isDigit_iff.mp h)

theorem digitValue_of_isDigit {c : Char} (h : isDigit c = true) :
    digitValue c = c.toNat - '0'.toNat := by
  rw [isDigit, Bool.and_eq_true, decide_eq_true_eq, decide_eq_true_eq] at h
  exact if_pos h

theorem digitValue_lt {c : Char} (h : isDigit c = true) : digitValue c < 10 := by
  rw [digitValue_of_isDigit h]
  have hcode := isDigit_iff.mp h
  have hzero : '0'.toNat = 48 := rfl
  omega

theorem natOf_from (base start : Nat) (cs : List Char) :
    cs.foldl (fun n c => n * base + digitValue c) start =
      start * base ^ cs.length + natOf base cs := by
  induction cs generalizing start with
  | nil => simp [natOf]
  | cons c cs ih =>
      rw [natOf, List.foldl_cons, List.foldl_cons, ih, ih (0 * base + digitValue c),
        List.length_cons, Nat.pow_succ]
      ring

theorem natOf_append (base : Nat) (cs ds : List Char) :
    natOf base (cs ++ ds) = natOf base cs * base ^ ds.length + natOf base ds := by
  rw [natOf, List.foldl_append, natOf_from]
  rfl

theorem natOf_cons (base : Nat) (c : Char) (cs : List Char) :
    natOf base (c :: cs) = digitValue c * base ^ cs.length + natOf base cs := by
  rw [natOf, List.foldl_cons, natOf_from, Nat.zero_mul, Nat.zero_add]

theorem natOf_zeros (base n : Nat) : natOf base (List.replicate n '0') = 0 := by
  have hzero : digitValue '0' = 0 := rfl
  induction n with
  | zero => rfl
  | succ n ih => rw [List.replicate_succ, natOf_cons, ih, hzero, Nat.zero_mul]

/-- Zeros in front of digits do not count. -/
theorem natOf_zeros_append (base n : Nat) (cs : List Char) :
    natOf base (List.replicate n '0' ++ cs) = natOf base cs := by
  rw [natOf_append, natOf_zeros, Nat.zero_mul, Nat.zero_add]

/-- Each zero behind digits moves them to the left. -/
theorem natOf_append_zeros (cs : List Char) (n : Nat) :
    natOf 10 (cs ++ List.replicate n '0') = natOf 10 cs * 10 ^ n := by
  rw [natOf_append, natOf_zeros, List.length_replicate, Nat.add_zero]

theorem natOf_lt_pow {cs : List Char} (h : ∀ c ∈ cs, isDigit c = true) :
    natOf 10 cs < 10 ^ cs.length := by
  induction cs with
  | nil => exact Nat.one_pos
  | cons c cs ih =>
      have hrest := ih fun d hd => h d (List.mem_cons_of_mem c hd)
      have hfirst := digitValue_lt (h c List.mem_cons_self)
      have hscaled : digitValue c * 10 ^ cs.length ≤ 9 * 10 ^ cs.length :=
        Nat.mul_le_mul_right _ (by omega)
      rw [natOf_cons, List.length_cons, Nat.pow_succ]
      omega

theorem isDigit_of_mem_digitsOf {n : Nat} {c : Char} (h : c ∈ digitsOf n) : isDigit c = true :=
  isDigit_of_char (Nat.isDigit_of_mem_toDigits (by decide) (by decide) h)

theorem digitsOf_ne_nil (n : Nat) : digitsOf n ≠ [] :=
  Nat.toDigits_ne_nil

/-- The digits of a number are read as that number. -/
theorem natOf_digitsOf (n : Nat) : natOf 10 (digitsOf n) = n := by
  have hsame {cs : List Char} (h : ∀ c ∈ cs, isDigit c = true) (start : Nat) :
      Nat.ofDigitChars 10 cs start = cs.foldl (fun n c => n * 10 + digitValue c) start := by
    induction cs generalizing start with
    | nil => exact Nat.ofDigitChars_nil
    | cons c cs ih =>
        rw [Nat.ofDigitChars_cons, List.foldl_cons, digitValue_of_isDigit (h c List.mem_cons_self),
          ih fun d hd => h d (List.mem_cons_of_mem c hd), Nat.mul_comm 10 start]
  rw [natOf, ← hsame fun c hc => isDigit_of_mem_digitsOf hc]
  exact Nat.ofDigitChars_ten_toDigits

/-- A number has as many digits as its size asks for. -/
theorem digitsOf_bounds {n : Nat} (hn : 0 < n) :
    10 ^ ((digitsOf n).length - 1) ≤ n ∧ n < 10 ^ (digitsOf n).length := by
  constructor
  · by_cases hlength : (digitsOf n).length - 1 = 0
    · rw [hlength]
      exact hn
    · apply Nat.le_of_not_lt
      intro hlt
      have hle := (Nat.length_toDigits_le_iff (by decide) (by omega)).mpr hlt
      change (digitsOf n).length ≤ (digitsOf n).length - 1 at hle
      omega
  · have h := natOf_lt_pow fun c hc => isDigit_of_mem_digitsOf (n := n) hc
    rwa [natOf_digitsOf] at h

/-- The digits of a number begin with no zero. -/
theorem head_digitsOf {n : Nat} (hn : 0 < n) : ∀ c ∈ (digitsOf n).head?, c ≠ '0' := by
  rintro c hc rfl
  obtain ⟨cs, hcs⟩ := List.head?_eq_some_iff.mp hc
  have hread := natOf_digitsOf n
  have hsize := (digitsOf_bounds hn).1
  have hrest : natOf 10 cs < 10 ^ cs.length := by
    apply natOf_lt_pow
    intro d hd
    exact isDigit_of_mem_digitsOf (n := n) (hcs ▸ List.mem_cons_of_mem '0' hd)
  have hzero : digitValue '0' = 0 := rfl
  rw [hcs, natOf_cons, hzero, Nat.zero_mul, Nat.zero_add] at hread
  rw [hcs, List.length_cons, Nat.add_sub_cancel] at hsize
  omega

theorem digitChar_digitValue {c : Char} (h : isDigit c = true) :
    Nat.digitChar (digitValue c) = c := by
  have hcode := isDigit_iff.mp h
  have hzero : '0'.toNat = 48 := rfl
  apply Char.toNat_inj.mp
  rw [Nat.toNat_digitChar_of_lt_ten (digitValue_lt h), digitValue_of_isDigit h]
  omega

/-- Digits behind a number other than zero are the last digits of what they are read as. -/
theorem digitsOf_from {cs : List Char} (h : ∀ c ∈ cs, isDigit c = true) {start : Nat}
    (hstart : 0 < start) :
    digitsOf (cs.foldl (fun n c => n * 10 + digitValue c) start) = digitsOf start ++ cs := by
  induction cs generalizing start with
  | nil => exact (List.append_nil _).symm
  | cons c cs ih =>
      have hc := h c List.mem_cons_self
      have hlast : digitsOf (start * 10 + digitValue c) = digitsOf start ++ [c] := by
        have happend := Nat.toDigits_append_toDigits (b := 10) (by decide) hstart (digitValue_lt hc)
        rw [Nat.toDigits_of_lt_base (digitValue_lt hc), digitChar_digitValue hc,
          Nat.mul_comm 10 start] at happend
        exact happend.symm
      rw [List.foldl_cons, ih (fun d hd => h d (List.mem_cons_of_mem c hd)) (by omega), hlast,
        List.append_assoc, List.singleton_append]

/-- Digits without a needless zero are those of the number that they are read as. -/
theorem digitsOf_natOf {c : Char} {cs : List Char} (h : ∀ d ∈ c :: cs, isDigit d = true)
    (hzero : c ≠ '0' ∨ cs = []) : digitsOf (natOf 10 (c :: cs)) = c :: cs := by
  have hc := h c List.mem_cons_self
  have hsingle : digitsOf (digitValue c) = [c] := by
    rw [digitsOf, Nat.toDigits_of_lt_base (digitValue_lt hc), digitChar_digitValue hc]
  have hread : natOf 10 (c :: cs) =
      cs.foldl (fun n c => n * 10 + digitValue c) (digitValue c) := by
    rw [natOf, List.foldl_cons, Nat.zero_mul, Nat.zero_add]
  rw [hread]
  rcases hzero with hzero | rfl
  · have hpos : 0 < digitValue c := by
      apply Nat.pos_of_ne_zero
      intro hvalue
      rw [← digitChar_digitValue hc, hvalue] at hzero
      exact hzero rfl
    rw [digitsOf_from (fun d hd => h d (List.mem_cons_of_mem c hd)) hpos, hsingle,
      List.singleton_append]
  · exact hsingle

end Numeral

end AlertRelay
