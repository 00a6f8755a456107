import AlertRelay.Proofs.Number.Digits
import AlertRelay.Value.KeyOrder

/-!
Fields in the order in which they are listed.

A name that counts as an index is the one text of its number (`toList_of_indexOf?`), so that the
indices of different names are different, and ascend strictly in a listing (`indexedFields_sorted`).
The order depends on the names only
(`listedFields_map_named`).  Fields that are listed already stay in their order
(`listedFields_listedFields`), and fields in front that have no index do not change how the others
are listed (`filter_listedFields_append`).
-/

namespace AlertRelay

variable {α : Type} {fields : List (String × α)}

theorem names_listedFields_perm (fields : List (String × α)) :
    (Assoc.names (listedFields fields)).Perm (Assoc.names fields) :=
  (listedFields_perm fields).map Prod.fst

theorem toList_of_indexOf? {name : String} {n : Nat} (h : indexOf? name = some n) :
    name.toList = Double.digitsOf n := by
  unfold indexOf? at h
  split at h
  · cases h
  · next c rest hname =>
      split at h
      · next hdigits =>
          simp only [Bool.and_eq_true, Bool.or_eq_true, bne_iff_ne, List.isEmpty_iff,
            List.all_eq_true] at hdigits
          simp only [Option.ite_none_right_eq_some, Option.some.injEq] at h
          rw [hname, ← h.2, Numeral.digitsOf_natOf hdigits.1.1 hdigits.1.2]
      · cases h

/-- Different names have different indices. -/
theorem eq_of_indexOf? {name other : String} {n : Nat} (h : indexOf? name = some n)
    (hother : indexOf? other = some n) : name = other :=
  String.toList_inj.mp ((toList_of_indexOf? h).trans (toList_of_indexOf? hother).symm)

/-- An entry of the indexed fields is one of the fields, with its index. -/
theorem mem_indexedFields {e : Nat × String × α} (h : e ∈ indexedFields fields) :
    e.2 ∈ fields ∧ indexOf? e.2.1 = some e.1 := by
  induction fields with
  | nil => cases h
  | cons f rest ih =>
      obtain ⟨k, v⟩ := f
      cases hindex : indexOf? k with
      | none =>
          rw [indexedFields, hindex] at h
          exact (ih h).imp_left (List.mem_cons_of_mem _)
      | some n =>
          rw [indexedFields, hindex] at h
          rcases List.mem_cons.mp ((insertIndexed_perm n (k, v) _).mem_iff.mp h) with rfl | h
          · exact ⟨List.mem_cons_self, hindex⟩
          · exact (ih h).imp_left (List.mem_cons_of_mem _)

theorem sorted_insertIndexed {n : Nat} (f : String × α) {rest : List (Nat × String × α)}
    (hne : ∀ e ∈ rest, e.1 ≠ n) (hrest : rest.Pairwise fun a b => a.1 < b.1) :
    (insertIndexed n f rest).Pairwise fun a b => a.1 < b.1 := by
  induction rest with
  | nil => exact List.pairwise_singleton _ _
  | cons e rest ih =>
      obtain ⟨m, other⟩ := e
      obtain ⟨hfirst, hrest⟩ := List.pairwise_cons.mp hrest
      have hm : m ≠ n := hne (m, other) List.mem_cons_self
      rw [insertIndexed]
      split
      · next hlt =>
          apply List.pairwise_cons.mpr
          refine ⟨?_, List.pairwise_cons.mpr ⟨hfirst, hrest⟩⟩
          intro b hb
          rcases List.mem_cons.mp hb with rfl | hb
          · exact hlt
          · exact Nat.lt_trans hlt (hfirst b hb)
      · next hge =>
          apply List.pairwise_cons.mpr
          refine ⟨?_, ih (fun e he => hne e (List.mem_cons_of_mem _ he)) hrest⟩
          intro b hb
          rcases List.mem_cons.mp ((insertIndexed_perm n f rest).mem_iff.mp hb) with rfl | hb
          · exact Nat.lt_of_le_of_ne (Nat.not_lt.mp hge) hm
          · exact hfirst b hb

/-- The indices ascend. -/
theorem sorted_indexedFields (hnames : (Assoc.names fields).Nodup) :
    (indexedFields fields).Pairwise fun a b => a.1 < b.1 := by
  induction fields with
  | nil => exact List.Pairwise.nil
  | cons f rest ih =>
      obtain ⟨k, v⟩ := f
      obtain ⟨hnew, hrest⟩ := List.nodup_cons.mp hnames
      cases hindex : indexOf? k with
      | none =>
          rw [indexedFields, hindex]
          exact ih hrest
      | some n =>
          rw [indexedFields, hindex]
          apply sorted_insertIndexed _ _ (ih hrest)
          rintro e he rfl
          obtain ⟨hmem, hother⟩ := mem_indexedFields he
          apply hnew
          rw [← eq_of_indexOf? hother hindex]
          exact List.mem_map.mpr ⟨e.2, hmem, rfl⟩

/-- Entries whose indices ascend are left in their order. -/
theorem indexedFields_of_sorted {entries : List (Nat × String × α)}
    (hindex : ∀ e ∈ entries, indexOf? e.2.1 = some e.1)
    (hsorted : entries.Pairwise fun a b => a.1 < b.1) :
    indexedFields (entries.map Prod.snd) = entries := by
  induction entries with
  | nil => rfl
  | cons e rest ih =>
      obtain ⟨n, k, v⟩ := e
      obtain ⟨hfirst, hrest⟩ := List.pairwise_cons.mp hsorted
      have hmore := ih (fun e he => hindex e (List.mem_cons_of_mem _ he)) hrest
      rw [List.map_cons, indexedFields, hindex (n, k, v) List.mem_cons_self, hmore]
      cases rest with
      | nil => rfl
      | cons e rest =>
          obtain ⟨m, other⟩ := e
          exact if_pos (hfirst (m, other) List.mem_cons_self)

/-- The order does not depend on what is made of the fields, if they keep their names. -/
theorem listedFields_map_named {β : Type} (G : String × α → β) (fields : List (String × α)) :
    listedFields (fields.map fun f => (f.1, G f)) =
      (listedFields fields).map fun f => (f.1, G f) := by
  have hpaired : fields.map (fun f => (f.1, G f)) =
      (fields.map fun f => (f.1, f)).map fun p => (p.1, G p.2) := by
    rw [List.map_map]
    rfl
  have hunpaired : listedFields fields =
      (listedFields (fields.map fun f => (f.1, f))).map fun p => (p.1, p.2.2) := by
    rw [← listedFields_map, List.map_map]
    exact congrArg listedFields (List.map_id fields).symm
  have hnamed : ∀ p ∈ listedFields (fields.map fun f => (f.1, f)), p.2.1 = p.1 := by
    intro p hp
    obtain ⟨f, -, rfl⟩ := List.mem_map.mp ((listedFields_perm _).mem_iff.mp hp)
    rfl
  rw [hpaired, listedFields_map, hunpaired, List.map_map]
  apply List.map_congr_left
  intro p hp
  obtain ⟨k, name, v⟩ := p
  obtain rfl : name = k := hnamed _ hp
  rfl

/-- Only fields with an index count. -/
theorem indexedFields_filter (fields : List (String × α)) :
    indexedFields (fields.filter fun f => (indexOf? f.1).isSome) = indexedFields fields := by
  induction fields with
  | nil => rfl
  | cons f rest ih =>
      obtain ⟨k, v⟩ := f
      cases hindex : indexOf? k with
      | none => simp only [List.filter_cons, hindex, Option.isSome_none, Bool.false_eq_true,
          if_false, indexedFields, ih]
      | some n => simp only [List.filter_cons, hindex, Option.isSome_some, if_true, indexedFields,
          ih]

/-- Fields that are listed already stay in their order. -/
theorem listedFields_listedFields (hnames : (Assoc.names fields).Nodup) :
    listedFields (listedFields fields) = listedFields fields := by
  have hindex : ∀ e ∈ indexedFields fields, indexOf? e.2.1 = some e.1 :=
    fun e he => (mem_indexedFields he).2
  have hindexed : ∀ f ∈ (indexedFields fields).map Prod.snd, (indexOf? f.1).isSome = true := by
    intro f hf
    obtain ⟨e, he, rfl⟩ := List.mem_map.mp hf
    rw [hindex e he]
    rfl
  have hplain : ∀ f ∈ fields.filter (fun f => (indexOf? f.1).isNone), (indexOf? f.1).isNone =
      true := fun f hf => (List.mem_filter.mp hf).2
  have hfront : (listedFields fields).filter (fun f => (indexOf? f.1).isSome) =
      (indexedFields fields).map Prod.snd := by
    rw [listedFields, List.filter_append, List.filter_eq_self.mpr hindexed,
      List.filter_eq_nil_iff.mpr, List.append_nil]
    intro f hf
    simpa using hplain f hf
  have hbehind : (listedFields fields).filter (fun f => (indexOf? f.1).isNone) =
      fields.filter fun f => (indexOf? f.1).isNone := by
    rw [listedFields, List.filter_append, List.filter_eq_self.mpr hplain,
      List.filter_eq_nil_iff.mpr, List.nil_append]
    intro f hf
    have hsome := hindexed f hf
    simpa [Option.isSome_iff_ne_none] using hsome
  have hsame : indexedFields (listedFields fields) = indexedFields fields := by
    rw [← indexedFields_filter (listedFields fields), hfront]
    exact indexedFields_of_sorted hindex (sorted_indexedFields hnames)
  rw [listedFields, hsame, hbehind]
  rfl

/-- Fields in front that have no index do not change how those behind them are listed. -/
theorem filter_listedFields_append {front : List (String × α)} {keep : String × α → Bool}
    (hindex : ∀ f ∈ front, indexOf? f.1 = none) (hfront : ∀ f ∈ front, keep f = false)
    (hfields : ∀ f ∈ fields, keep f = true) :
    (listedFields (front ++ fields)).filter keep = listedFields fields := by
  have hindexed : indexedFields (front ++ fields) = indexedFields fields := by
    rw [← indexedFields_filter, List.filter_append, List.filter_eq_nil_iff.mpr, List.nil_append,
      indexedFields_filter]
    intro f hf
    rw [hindex f hf]
    exact Bool.false_ne_true
  have hplain : ((front ++ fields).filter fun f => (indexOf? f.1).isNone) =
      front ++ fields.filter fun f => (indexOf? f.1).isNone := by
    rw [List.filter_append, List.filter_eq_self.mpr]
    intro f hf
    rw [hindex f hf]
    rfl
  have hdropped : front.filter keep = [] := by
    apply List.filter_eq_nil_iff.mpr
    intro f hf
    rw [hfront f hf]
    exact Bool.false_ne_true
  have hkept : (listedFields fields).filter keep = listedFields fields := by
    apply List.filter_eq_self.mpr
    intro f hf
    exact hfields f ((listedFields_perm fields).mem_iff.mp hf)
  rw [listedFields, List.filter_append] at hkept
  rw [listedFields, hindexed, hplain, List.filter_append, List.filter_append, hdropped,
    List.nil_append, hkept]
  rfl

end AlertRelay
