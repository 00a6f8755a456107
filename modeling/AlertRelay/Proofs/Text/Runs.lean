import AlertRelay.Text.Blank
import Mathlib.Data.List.TakeWhile

/-!
Runs of characters at the ends of a text.

A run at the front ends at the first character that does not belong to it, or with the text
(`dropWhile_run`); a text without the runs at both its ends is what lies between them
(`trimBy_append`).
-/

namespace AlertRelay.Text

variable {p : Char → Bool} {run : List Char}

theorem takeWhile_run (hrun : ∀ c ∈ run, p c = true) {rest : List Char}
    (hrest : ∀ c ∈ rest.head?, p c = false) : (run ++ rest).takeWhile p = run := by
  rw [List.takeWhile_append_of_pos hrun]
  cases rest with
  | nil => exact List.append_nil run
  | cons c rest =>
      have hc : ¬ p c = true := by
        rw [hrest c rfl]
        exact Bool.false_ne_true
      rw [List.takeWhile_cons_of_neg hc, List.append_nil]

theorem dropWhile_run (hrun : ∀ c ∈ run, p c = true) {rest : List Char}
    (hrest : ∀ c ∈ rest.head?, p c = false) : (run ++ rest).dropWhile p = rest := by
  rw [List.dropWhile_append_of_pos hrun]
  cases rest with
  | nil => rfl
  | cons c rest =>
      apply List.dropWhile_cons_of_neg
      rw [hrest c rfl]
      exact Bool.false_ne_true

/-- What lies between two runs, and neither begins nor ends with a character of theirs, is left
when both are taken off. -/
theorem trimBy_append {mid after : List Char} (hrun : ∀ c ∈ run, p c = true)
    (hafter : ∀ c ∈ after, p c = true) (hne : mid ≠ []) (hhead : ∀ c ∈ mid.head?, p c = false)
    (hlast : ∀ c ∈ mid.getLast?, p c = false) : trimBy p (run ++ (mid ++ after)) = mid := by
  have hfront : ∀ c ∈ (mid ++ after).head?, p c = false := by
    obtain ⟨first, rest, rfl⟩ := List.exists_cons_of_ne_nil hne
    exact hhead
  have hback : ∀ c ∈ mid.reverse.head?, p c = false := by
    intro c hc
    rw [List.head?_reverse] at hc
    exact hlast c hc
  have hbehind : ∀ c ∈ after.reverse, p c = true := fun c hc => hafter c (List.mem_reverse.mp hc)
  rw [trimBy, dropWhile_run hrun hfront, List.reverse_append, dropWhile_run hbehind hback,
    List.reverse_reverse]

/-- A text is what is left of it between two runs. -/
theorem exists_append_trimBy (p : Char → Bool) (cs : List Char) :
    ∃ before after, cs = before ++ (trimBy p cs ++ after) ∧ (∀ c ∈ before, p c = true) ∧
      ∀ c ∈ after, p c = true := by
  refine ⟨cs.takeWhile p, ((cs.dropWhile p).reverse.takeWhile p).reverse, ?_, ?_, ?_⟩
  · rw [trimBy, ← List.reverse_append, List.takeWhile_append_dropWhile, List.reverse_reverse,
      List.takeWhile_append_dropWhile]
  · exact fun _ hc => List.mem_takeWhile_imp hc
  · exact fun _ hc => List.mem_takeWhile_imp (List.mem_reverse.mp hc)

/-- Nothing is left of a text exactly if it is one run. -/
theorem trimBy_eq_nil_iff {cs : List Char} : trimBy p cs = [] ↔ ∀ c ∈ cs, p c = true := by
  constructor
  · intro h c hc
    obtain ⟨before, after, hcs, hbefore, hafter⟩ := exists_append_trimBy p cs
    rw [h, List.nil_append] at hcs
    rw [hcs] at hc
    exact (List.mem_append.mp hc).elim (hbefore c) (hafter c)
  · intro h
    rw [trimBy, List.dropWhile_eq_nil_iff.mpr h]
    rfl

end AlertRelay.Text
