/-!
Lists of named values.

The order of the names is the order in which they were first given a value; giving one a new
value keeps its place.
-/

namespace AlertRelay

/-- Values with names, in the order in which the names were first used. -/
abbrev Assoc (α : Type) := List (String × α)

namespace Assoc

variable {α : Type}

/-- The value of a name. -/
def get? (name : String) : Assoc α → Option α
  | [] => none
  | (k, v) :: rest => if k = name then some v else get? name rest

/-- Gives a name a value: in its place if it is there, else at the end. -/
def put (name : String) (v : α) : Assoc α → Assoc α
  | [] => [(name, v)]
  | (k, w) :: rest => if k = name then (name, v) :: rest else (k, w) :: put name v rest

/-- The values without the one of a name. -/
def drop (name : String) (a : Assoc α) : Assoc α :=
  a.filter (·.1 != name)

/-- The names. -/
def names (a : Assoc α) : List String :=
  a.map (·.1)

@[simp] theorem get?_put_self (name : String) (v : α) (a : Assoc α) :
    get? name (put name v a) = some v := by
  induction a with
  | nil => simp [put, get?]
  | cons p rest ih =>
    obtain ⟨k, w⟩ := p
    by_cases h : k = name <;> simp [put, get?, h, ih]

theorem get?_put_of_ne {name other : String} (h : other ≠ name) (v : α) (a : Assoc α) :
    get? other (put name v a) = get? other a := by
  induction a with
  | nil => simp [put, get?, Ne.symm h]
  | cons p rest ih =>
    obtain ⟨k, w⟩ := p
    by_cases hk : k = name
    · subst hk
      simp [put, get?, Ne.symm h]
    · simp only [put, if_neg hk, get?]
      rw [ih]

theorem eq_or_mem_of_mem_put {name : String} {v : α} {p : String × α} {a : Assoc α}
    (h : p ∈ put name v a) : p = (name, v) ∨ p ∈ a := by
  induction a with
  | nil => exact Or.inl (List.mem_singleton.mp h)
  | cons q rest ih =>
    obtain ⟨k, w⟩ := q
    by_cases hk : k = name
    · rw [put, if_pos hk] at h
      exact (List.mem_cons.mp h).imp_right (List.mem_cons_of_mem _)
    · rw [put, if_neg hk] at h
      rcases List.mem_cons.mp h with rfl | h
      · exact Or.inr List.mem_cons_self
      · exact (ih h).imp_right (List.mem_cons_of_mem _)

theorem get?_map {β : Type} (F : α → β) (name : String) (a : Assoc α) :
    get? name (a.map fun p => (p.1, F p.2)) = (get? name a).map F := by
  induction a with
  | nil => rfl
  | cons p rest ih =>
    simp only [List.map_cons, get?, ih]
    split <;> rfl

theorem mem_of_get? {name : String} {v : α} {a : Assoc α} (h : get? name a = some v) :
    (name, v) ∈ a := by
  induction a with
  | nil => cases h
  | cons p rest ih =>
    obtain ⟨k, w⟩ := p
    by_cases hk : k = name
    · rw [get?, if_pos hk] at h
      cases h
      exact hk ▸ List.mem_cons_self
    · rw [get?, if_neg hk] at h
      exact List.mem_cons_of_mem _ (ih h)

@[simp] theorem get?_drop_self (name : String) (a : Assoc α) : get? name (drop name a) = none := by
  induction a with
  | nil => rfl
  | cons p rest ih =>
    obtain ⟨k, w⟩ := p
    by_cases h : k = name
    · simpa [drop, h] using ih
    · simpa [drop, h, get?] using ih

theorem get?_drop_of_ne {name other : String} (h : other ≠ name) (a : Assoc α) :
    get? other (drop name a) = get? other a := by
  induction a with
  | nil => rfl
  | cons p rest ih =>
    obtain ⟨k, w⟩ := p
    by_cases hk : k = name
    · subst hk
      simpa [drop, get?, Ne.symm h] using ih
    · by_cases ho : k = other
      · simp [drop, get?, ho, h]
      · simpa [drop, get?, hk, ho] using ih

@[simp] theorem names_cons (k : String) (v : α) (rest : Assoc α) :
    names ((k, v) :: rest) = k :: names rest :=
  rfl

/-- A name is new, or keeps its place. -/
theorem names_put (name : String) (v : α) (a : Assoc α) :
    names (put name v a) = if name ∈ names a then names a else names a ++ [name] := by
  induction a with
  | nil => rfl
  | cons p rest ih =>
    obtain ⟨k, w⟩ := p
    by_cases h : k = name
    · simp [put, h]
    · by_cases hm : name ∈ names rest <;> simp [put, h, Ne.symm h, ih, hm]

theorem names_put_nodup {a : Assoc α} (name : String) (v : α) (hnodup : (names a).Nodup) :
    (names (put name v a)).Nodup := by
  rw [names_put]
  split
  · exact hnodup
  · rename_i hnew
    rw [List.nodup_append]
    refine ⟨hnodup, List.nodup_cons.mpr ⟨List.not_mem_nil, List.nodup_nil⟩, ?_⟩
    rintro k hk other hother rfl
    exact hnew (List.mem_singleton.mp hother ▸ hk)

/-- A new name goes to the end. -/
theorem put_of_not_mem {a : Assoc α} {name : String} (v : α) (h : name ∉ names a) :
    put name v a = a ++ [(name, v)] := by
  induction a with
  | nil => rfl
  | cons p rest ih =>
    obtain ⟨k, w⟩ := p
    rw [names_cons, List.mem_cons, not_or] at h
    simp only [put, if_neg (Ne.symm h.1), ih h.2, List.cons_append]

/-- Values with different names are put in as they come. -/
theorem foldl_put {a l : Assoc α} (hnodup : (names (a ++ l)).Nodup) :
    l.foldl (fun found p => put p.1 p.2 found) a = a ++ l := by
  induction l generalizing a with
  | nil => exact (List.append_nil a).symm
  | cons p rest ih =>
    have hnew : p.1 ∉ names a := by
      intro hmem
      unfold names at hnodup
      rw [List.map_append, List.nodup_append] at hnodup
      exact hnodup.2.2 p.1 hmem p.1 List.mem_cons_self rfl
    have happend : a ++ p :: rest = (a ++ [p]) ++ rest := by simp
    rw [List.foldl_cons, put_of_not_mem p.2 hnew, happend]
    exact ih (happend ▸ hnodup)

/-- Where no name stands twice, a look-up finds what stands under the name. -/
theorem get?_eq_some_iff {name : String} {v : α} {a : Assoc α} (hnodup : (names a).Nodup) :
    get? name a = some v ↔ (name, v) ∈ a := by
  induction a with
  | nil => simp [get?]
  | cons q rest ih =>
    obtain ⟨k, w⟩ := q
    rw [names_cons, List.nodup_cons] at hnodup
    by_cases hk : k = name
    · subst hk
      have hrest : (k, v) ∉ rest := fun hmem => hnodup.1 (List.mem_map_of_mem hmem)
      simp [get?, hrest, eq_comm]
    · simp [get?, hk, Ne.symm hk, ih hnodup.2]

end Assoc

end AlertRelay
