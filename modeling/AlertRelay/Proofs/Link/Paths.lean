import AlertRelay.Link
import AlertRelay.Proofs.Text.Runs

/-!
Paths and their segments.

A path is cut at its slashes, and segments are joined by slashes; the one undoes the other as long
as no segment has a slash (`splitAt_joinSlash`).  The slashes around a path do not count
(`splitAt_trimBy_joinSegments`).
-/

namespace AlertRelay

namespace Text

/-- The pieces of a text do not have the character at which it is cut. -/
theorem not_mem_of_mem_splitAt {mark : Char} {cs piece : List Char}
    (h : piece ∈ splitAt mark cs) : mark ∉ piece := by
  induction cs generalizing piece with
  | nil =>
      rw [List.mem_singleton.mp h]
      exact List.not_mem_nil
  | cons c rest ih =>
      rw [splitAt] at h
      by_cases hc : c = mark
      · rw [if_pos hc] at h
        rcases List.mem_cons.mp h with rfl | h
        · exact List.not_mem_nil
        · exact ih h
      · rw [if_neg hc] at h
        cases hrest : splitAt mark rest with
        | nil => exact absurd hrest (splitAt_ne_nil mark rest)
        | cons first pieces =>
            rw [hrest] at h ih
            rcases List.mem_cons.mp h with rfl | h
            · intro hmem
              rcases List.mem_cons.mp hmem with hmark | hmem
              · exact hc hmark.symm
              · exact ih List.mem_cons_self hmem
            · exact ih (List.mem_cons_of_mem first h)

/-- A text without the character is one piece. -/
theorem splitAt_of_not_mem {mark : Char} {cs : List Char} (h : mark ∉ cs) :
    splitAt mark cs = [cs] := by
  induction cs with
  | nil => rfl
  | cons c rest ih =>
      obtain ⟨hc, hrest⟩ := List.ne_and_not_mem_of_not_mem_cons h
      rw [splitAt, if_neg (Ne.symm hc), ih hrest]

/-- A piece ends where the character stands. -/
theorem splitAt_append {mark : Char} {piece : List Char} (h : mark ∉ piece) (rest : List Char) :
    splitAt mark (piece ++ mark :: rest) = piece :: splitAt mark rest := by
  induction piece with
  | nil => rw [List.nil_append, splitAt, if_pos rfl]
  | cons c piece ih =>
      obtain ⟨hc, hpiece⟩ := List.ne_and_not_mem_of_not_mem_cons h
      rw [List.cons_append, splitAt, if_neg (Ne.symm hc), ih hpiece]

/-- A text is trimmed already if it begins and ends with characters that are kept. -/
theorem trimBy_of_ends {p : Char → Bool} {cs : List Char}
    (hhead : ∀ c ∈ cs.head?, p c = false) (hlast : ∀ c ∈ cs.getLast?, p c = false) :
    trimBy p cs = cs := by
  have hkeep : ∀ ds : List Char, (∀ c ∈ ds.head?, p c = false) → ds.dropWhile p = ds := by
    intro ds hds
    cases ds with
    | nil => rfl
    | cons d ds =>
        apply List.dropWhile_cons_of_neg
        rw [hds d rfl]
        exact Bool.false_ne_true
  rw [trimBy, hkeep cs hhead, hkeep cs.reverse (by rwa [List.head?_reverse]), List.reverse_reverse]

end Text

namespace Link

open AlertRelay.Web AlertRelay.Text

theorem joinSlash_cons {segment : List Char} {rest : List (List Char)} (h : rest ≠ []) :
    joinSlash (segment :: rest) = segment ++ '/' :: joinSlash rest := by
  obtain ⟨next, rest, rfl⟩ := List.exists_cons_of_ne_nil h
  rfl

theorem mem_joinSlash {segs : List (List Char)} {c : Char} (h : c ∈ joinSlash segs) :
    c = '/' ∨ ∃ s ∈ segs, c ∈ s := by
  induction segs with
  | nil => cases h
  | cons segment rest ih =>
      by_cases hrest : rest = []
      · rw [hrest] at h
        exact Or.inr ⟨segment, List.mem_cons_self, h⟩
      · rw [joinSlash_cons hrest, List.mem_append, List.mem_cons] at h
        rcases h with h | h | h
        · exact Or.inr ⟨segment, List.mem_cons_self, h⟩
        · exact Or.inl h
        · rcases ih h with h | ⟨s, hs, hc⟩
          · exact Or.inl h
          · exact Or.inr ⟨s, List.mem_cons_of_mem segment hs, hc⟩

/-- Segments that are joined are told apart again. -/
theorem splitAt_joinSlash {segs : List (List Char)} (hne : segs ≠ [])
    (hsegs : ∀ s ∈ segs, '/' ∉ s) : splitAt '/' (joinSlash segs) = segs := by
  induction segs with
  | nil => exact absurd rfl hne
  | cons segment rest ih =>
      have hsegment := hsegs segment List.mem_cons_self
      by_cases hrest : rest = []
      · rw [hrest]
        exact splitAt_of_not_mem hsegment
      · rw [joinSlash_cons hrest, splitAt_append hsegment,
          ih hrest fun s hs => hsegs s (List.mem_cons_of_mem segment hs)]

/-- The text of a path with a slash at its end. -/
theorem joinSegments_closed {segs : List (List Char)} (hne : segs ≠ []) :
    joinSegments (segs ++ [[]]) = '/' :: (joinSlash segs ++ ['/']) := by
  induction segs with
  | nil => exact absurd rfl hne
  | cons segment rest ih =>
      have hcons : joinSegments (segment :: rest ++ [[]]) =
          '/' :: (segment ++ joinSegments (rest ++ [[]])) := by
        simp only [joinSegments, List.cons_append, List.flatMap_cons]
      rw [hcons]
      by_cases hrest : rest = []
      · rw [hrest]
        rfl
      · rw [ih hrest, joinSlash_cons hrest, List.append_assoc, List.cons_append]

theorem head?_joinSlash {segment : List Char} (h : segment ≠ []) (rest : List (List Char)) :
    (joinSlash (segment :: rest)).head? = segment.head? := by
  obtain ⟨c, segment, rfl⟩ := List.exists_cons_of_ne_nil h
  by_cases hrest : rest = []
  · rw [hrest]
    rfl
  · rw [joinSlash_cons hrest]
    rfl

theorem getLast?_joinSlash {segs : List (List Char)} {last : List Char} (h : last ≠ []) :
    (joinSlash (segs ++ [last])).getLast? = last.getLast? := by
  induction segs with
  | nil => rfl
  | cons segment rest ih =>
      have hne : rest ++ [last] ≠ [] :=
        List.append_ne_nil_of_right_ne_nil rest (List.cons_ne_nil _ _)
      have hlast : last.getLast? = some (last.getLast h) := List.getLast?_eq_some_getLast h
      rw [List.cons_append, joinSlash_cons hne, List.append_cons, List.getLast?_append, ih, hlast,
        Option.some_or]

/-- The slashes around a path are no part of its segments. -/
theorem splitAt_trimBy_joinSegments {segs : List (List Char)} (hne : segs ≠ [])
    (hsegs : ∀ s ∈ segs, s ≠ [] ∧ '/' ∉ s) :
    splitAt '/' (trimBy (· == '/') (joinSegments (segs ++ [[]]))) = segs := by
  have hplain {s : List Char} (hs : s ∈ segs) {c : Char} (hc : c ∈ s) : (c == '/') = false := by
    rw [beq_eq_false_iff_ne]
    rintro rfl
    exact (hsegs s hs).2 hc
  have hhead : ∀ c ∈ (joinSlash segs).head?, (c == '/') = false := by
    obtain ⟨first, rest, rfl⟩ := List.exists_cons_of_ne_nil hne
    rw [head?_joinSlash (hsegs first List.mem_cons_self).1]
    intro c hc
    exact hplain List.mem_cons_self (List.mem_of_mem_head? hc)
  have hlast : ∀ c ∈ (joinSlash segs).getLast?, (c == '/') = false := by
    rcases List.eq_nil_or_concat segs with rfl | ⟨before, last, rfl⟩
    · exact absurd rfl hne
    · rw [List.concat_eq_append] at hsegs hplain ⊢
      have hmem : last ∈ before ++ [last] := List.mem_append_right before List.mem_cons_self
      rw [getLast?_joinSlash (hsegs last hmem).1]
      intro c hc
      exact hplain hmem (List.mem_of_getLast? hc)
  have hjoined : joinSlash segs ≠ [] := by
    obtain ⟨first, rest, rfl⟩ := List.exists_cons_of_ne_nil hne
    have hfirst := (hsegs first List.mem_cons_self).1
    intro hnil
    have hheads := head?_joinSlash hfirst rest
    rw [hnil, List.head?_nil, eq_comm, List.head?_eq_none_iff] at hheads
    exact hfirst hheads
  have hslash : ∀ c ∈ ['/'], (c == '/') = true := List.forall_mem_singleton.mpr rfl
  have htrimmed : trimBy (· == '/') ('/' :: (joinSlash segs ++ ['/'])) = joinSlash segs :=
    trimBy_append hslash hslash hjoined hhead hlast
  rw [joinSegments_closed hne, htrimmed, splitAt_joinSlash hne fun s hs => (hsegs s hs).2]

end Link

end AlertRelay
