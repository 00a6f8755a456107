import AlertRelay.Preference.MemoryStore
import Mathlib.Data.List.Nodup

/-!
Tables of named rows as sets of rows.

A row that is stored under a name made of its own content can be looked at without the name.
`Keyed` says that a table is of this kind; for such a table, every write says which rows there
are afterwards, and a look-up finds the row with that name.
-/

namespace AlertRelay.Assoc

variable {α : Type} {nameOf : α → String} {a : Assoc α}

/-- The values, without their names. -/
def rows (a : Assoc α) : List α :=
  a.map (·.2)

/-- Every row stands under the name that its content gives, and no name stands twice. -/
structure Keyed (nameOf : α → String) (a : Assoc α) : Prop where
  named : ∀ p ∈ a, p.1 = nameOf p.2
  nodup : (names a).Nodup

theorem keyed_nil : Keyed nameOf [] :=
  ⟨by simp, List.nodup_nil⟩

theorem mem_rows {r : α} : r ∈ rows a ↔ ∃ name, (name, r) ∈ a := by
  simp [rows]

namespace Keyed

theorem names_eq (h : Keyed nameOf a) : names a = (rows a).map nameOf := by
  unfold names rows
  rw [List.map_map]
  exact List.map_congr_left h.named

theorem rows_nodup (h : Keyed nameOf a) : (rows a).Nodup := by
  have hnodup := h.nodup
  rw [h.names_eq] at hnodup
  exact List.Nodup.of_map nameOf hnodup

/-- What the names are made of does not stand twice either. -/
theorem map_nodup {β : Type} {keyOf : α → β} {keyName : β → String}
    (h : Keyed (fun r => keyName (keyOf r)) a) : ((rows a).map keyOf).Nodup := by
  have hnodup := h.nodup
  rw [h.names_eq] at hnodup
  exact List.Nodup.of_map keyName (by rwa [List.map_map])

/-- Two rows of one name are one row. -/
theorem eq_of_name_eq (h : Keyed nameOf a) {r s : α} (hr : r ∈ rows a) (hs : s ∈ rows a)
    (hname : nameOf r = nameOf s) : r = s := by
  have hnodup := h.nodup
  rw [h.names_eq] at hnodup
  exact List.inj_on_of_nodup_map hnodup hr hs hname

theorem mem_iff (h : Keyed nameOf a) {name : String} {r : α} :
    (name, r) ∈ a ↔ r ∈ rows a ∧ nameOf r = name := by
  rw [mem_rows]
  constructor
  · intro hmem
    exact ⟨⟨name, hmem⟩, (h.named _ hmem).symm⟩
  · rintro ⟨⟨other, hmem⟩, rfl⟩
    have hother : other = nameOf r := h.named _ hmem
    exact hother ▸ hmem

theorem filter (h : Keyed nameOf a) (keep : String × α → Bool) :
    Keyed nameOf (a.filter keep) where
  named := fun p hp => h.named p (List.mem_filter.mp hp).1
  nodup := h.nodup.sublist (List.filter_sublist.map _)

theorem drop (h : Keyed nameOf a) (name : String) : Keyed nameOf (Assoc.drop name a) :=
  h.filter _

/-- To take away the row of a name is to take away the name. -/
theorem filter_eq_drop (h : Keyed nameOf a) {name : String} (drops : α → Bool)
    (hdrops : ∀ r ∈ rows a, drops r = true ↔ nameOf r = name) :
    (a.filter fun p => !drops p.2) = Assoc.drop name a := by
  refine List.filter_congr ?_
  intro p hp
  have hname : drops p.2 = (p.1 == name) := by
    rw [Bool.eq_iff_iff, hdrops p.2 (List.mem_map_of_mem hp), beq_iff_eq, h.named p hp]
  rw [hname]
  rfl

theorem mem_rows_drop (h : Keyed nameOf a) {name : String} {r : α} :
    r ∈ rows (Assoc.drop name a) ↔ r ∈ rows a ∧ nameOf r ≠ name := by
  rw [mem_rows, mem_rows]
  simp only [Assoc.drop, List.mem_filter, bne_iff_ne, ne_eq]
  constructor
  · rintro ⟨other, hmem, hne⟩
    exact ⟨⟨other, hmem⟩, h.named _ hmem ▸ hne⟩
  · rintro ⟨⟨other, hmem⟩, hne⟩
    exact ⟨other, hmem, fun hname => hne ((h.named _ hmem).symm.trans hname)⟩

end Keyed

theorem rows_filter (keep : α → Bool) (a : Assoc α) :
    rows (a.filter fun p => keep p.2) = (rows a).filter keep := by
  rw [rows, rows, List.filter_map]
  rfl

theorem mem_rows_filter (keep : α → Bool) {r : α} :
    r ∈ rows (a.filter fun p => keep p.2) ↔ r ∈ rows a ∧ keep r = true := by
  rw [rows_filter, List.mem_filter]

/-- A value that is put in takes the place of the one with its name. -/
theorem mem_put {name : String} {v : α} {p : String × α} (hnodup : (names a).Nodup) :
    p ∈ put name v a ↔ p = (name, v) ∨ (p ∈ a ∧ p.1 ≠ name) := by
  induction a with
  | nil => simp [put]
  | cons q rest ih =>
      obtain ⟨k, w⟩ := q
      rw [names_cons, List.nodup_cons] at hnodup
      by_cases hk : k = name
      · subst hk
        have hrest : ∀ p ∈ rest, p.1 ≠ k := by
          intro p hp hname
          exact hnodup.1 (hname ▸ List.mem_map_of_mem hp)
        simp only [put, if_true, List.mem_cons]
        constructor
        · rintro (rfl | hp)
          · exact Or.inl rfl
          · exact Or.inr ⟨Or.inr hp, hrest p hp⟩
        · rintro (rfl | ⟨rfl | hp, hne⟩)
          · exact Or.inl rfl
          · exact absurd rfl hne
          · exact Or.inr hp
      · simp only [put, if_neg hk, List.mem_cons, ih hnodup.2]
        constructor
        · rintro (rfl | rfl | ⟨hp, hne⟩)
          · exact Or.inr ⟨Or.inl rfl, hk⟩
          · exact Or.inl rfl
          · exact Or.inr ⟨Or.inr hp, hne⟩
        · rintro (rfl | ⟨rfl | hp, hne⟩)
          · exact Or.inr (Or.inl rfl)
          · exact Or.inl rfl
          · exact Or.inr (Or.inr ⟨hp, hne⟩)

namespace Keyed

theorem put (h : Keyed nameOf a) (v : α) : Keyed nameOf (Assoc.put (nameOf v) v a) where
  named := by
    intro p hp
    rcases (mem_put h.nodup).mp hp with rfl | ⟨hp, _⟩
    · rfl
    · exact h.named p hp
  nodup := names_put_nodup _ v h.nodup

theorem mem_rows_put (h : Keyed nameOf a) {v r : α} :
    r ∈ rows (Assoc.put (nameOf v) v a) ↔ r = v ∨ (r ∈ rows a ∧ nameOf r ≠ nameOf v) := by
  rw [mem_rows, mem_rows]
  constructor
  · rintro ⟨name, hmem⟩
    rcases (mem_put h.nodup).mp hmem with heq | ⟨hmem, hne⟩
    · exact Or.inl (Prod.ext_iff.mp heq).2
    · exact Or.inr ⟨⟨name, hmem⟩, h.named _ hmem ▸ hne⟩
  · rintro (rfl | ⟨⟨name, hmem⟩, hne⟩)
    · exact ⟨nameOf r, (mem_put h.nodup).mpr (Or.inl rfl)⟩
    · exact ⟨name, (mem_put h.nodup).mpr (Or.inr ⟨hmem, (h.named _ hmem).symm ▸ hne⟩)⟩

/-- A value that is put in takes the place of the one with its name. -/
theorem rows_put (h : Keyed nameOf a) {v : α} (hname : nameOf v ∈ names a) :
    rows (Assoc.put (nameOf v) v a) =
      (rows a).map fun r => if nameOf r = nameOf v then v else r := by
  induction a with
  | nil => exact absurd hname List.not_mem_nil
  | cons p rest ih =>
      obtain ⟨k, w⟩ := p
      obtain rfl : k = nameOf w := h.named (k, w) List.mem_cons_self
      have hnodup := h.nodup
      rw [names_cons, List.nodup_cons] at hnodup
      have hrest : Keyed nameOf rest :=
        ⟨fun q hq => h.named q (List.mem_cons_of_mem _ hq), hnodup.2⟩
      by_cases hw : nameOf w = nameOf v
      · have hothers : (rows rest).map (fun r => if nameOf r = nameOf v then v else r) =
            rows rest := by
          refine (List.map_congr_left ?_).trans (List.map_id _)
          intro r hr
          refine if_neg fun hsame => hnodup.1 ?_
          rw [hw, ← hsame, hrest.names_eq]
          exact List.mem_map_of_mem hr
        simp only [Assoc.put, if_pos hw, rows, List.map_cons] at hothers ⊢
        rw [hothers]
      · have hmem : nameOf v ∈ names rest :=
          (List.mem_cons.mp hname).resolve_left (Ne.symm hw)
        have hput := ih hrest hmem
        simp only [rows] at hput
        simp only [Assoc.put, if_neg hw, rows, List.map_cons, hput]

/-- It makes no difference if the row with the name is taken away first, but for the order. -/
theorem rows_put_drop_perm (h : Keyed nameOf a) (v : α) :
    (rows (Assoc.put (nameOf v) v (Assoc.drop (nameOf v) a))).Perm
      (rows (Assoc.put (nameOf v) v a)) := by
  have hdrop := h.drop (nameOf v)
  refine (List.perm_ext_iff_of_nodup (hdrop.put v).rows_nodup (h.put v).rows_nodup).mpr ?_
  intro r
  rw [hdrop.mem_rows_put, h.mem_rows_put, h.mem_rows_drop]
  exact or_congr_right (by rw [and_assoc, and_self])

end Keyed

theorem Keyed.get?_eq_some_iff (h : Keyed nameOf a) {name : String} {r : α} :
    get? name a = some r ↔ r ∈ rows a ∧ nameOf r = name := by
  rw [Assoc.get?_eq_some_iff h.nodup, h.mem_iff]

end AlertRelay.Assoc
