import AlertRelay.Proofs.Preference.Rows

/-!
What is found when the options of users are asked for.

An option in a project is named by its user, its option key and its project alone
(`MemoryStore.Apart`), so that a user has at most one value to be found, whoever stored it.
-/

namespace AlertRelay.Preference

open Assoc (Keyed rows names)

/-- Options stand under their names, and those in projects are told apart by no organization. -/
structure MemoryStore.Apart (s : MemoryStore) : Prop where
  keyed : Keyed (fun row : OptionRow => row.key.rowName) s.options
  organization : ∀ o ∈ rows s.options, o.key.project.isSome → o.key.organization = none

namespace MemoryStore.Apart

variable {s : MemoryStore}

/-- An option is the only one for its user, its project and its option key. -/
theorem option_eq (h : s.Apart) {o p : OptionRow} (ho : o ∈ rows s.options)
    (hp : p ∈ rows s.options) (hproject : o.key.project.isSome) (huser : o.key.user = p.key.user)
    (hsame : o.key.project = p.key.project) (hkey : o.key.key = p.key.key) : o = p := by
  have horganization : o.key.organization = p.key.organization :=
    (h.organization o ho hproject).trans (h.organization p hp (hsame ▸ hproject)).symm
  refine h.keyed.eq_of_name_eq ho hp ?_
  simp only [OptionKey.rowName, huser, hsame, hkey, horganization]

/-- Whether an option is asked for. -/
def asked (users : List String) (project key : String) (o : OptionRow) : Bool :=
  users.contains o.key.user && o.key.project == some project && o.key.key == key

/-- The values that are found are those of the options that are asked for, one for each user. -/
theorem optionValues_eq (h : s.Apart) (users : List String) (project key : String) :
    s.optionValues users project key =
        ((rows s.options).filter (asked users project key)).map
          (fun o => (o.key.user, o.value)) ∧
      (names (s.optionValues users project key)).Nodup := by
  have hnodup : (names (((rows s.options).filter (asked users project key)).map
      fun o => (o.key.user, o.value))).Nodup := by
    unfold names
    rw [List.map_map]
    refine List.Nodup.map_on ?_ (h.keyed.rows_nodup.filter _)
    intro o ho p hp huser
    simp only [List.mem_filter, asked, Bool.and_eq_true, beq_iff_eq] at ho hp
    obtain ⟨ho, ⟨_, hoproject⟩, hokey⟩ := ho
    obtain ⟨hp, ⟨_, hpproject⟩, hpkey⟩ := hp
    exact h.option_eq ho hp (hoproject ▸ rfl) huser (hoproject.trans hpproject.symm)
      (hokey.trans hpkey.symm)
  have heq : s.optionValues users project key =
      ((rows s.options).filter (asked users project key)).map
        fun o => (o.key.user, o.value) := by
    -- The loop over all rows puts in what it would put in after filtering and pairing them.
    have hfold := Assoc.foldl_put (a := []) hnodup
    rw [List.foldl_map, List.foldl_filter, rows, List.foldl_map] at hfold
    exact hfold
  exact ⟨heq, heq ▸ hnodup⟩

theorem mem_optionValues (h : s.Apart) {users : List String} {project key u : String}
    {l : OptionValue} :
    (u, l) ∈ s.optionValues users project key ↔
      ∃ o ∈ rows s.options, u ∈ users ∧ o.key.user = u ∧ o.key.project = some project ∧
        o.key.key = key ∧ o.value = l := by
  rw [(h.optionValues_eq users project key).1, List.mem_map]
  constructor
  · rintro ⟨o, ho, hpair⟩
    obtain ⟨rfl, rfl⟩ := Prod.ext_iff.mp hpair
    simp only [List.mem_filter, asked, Bool.and_eq_true, List.contains_iff_mem,
      beq_iff_eq] at ho
    obtain ⟨ho, ⟨huser, hproject⟩, hkey⟩ := ho
    exact ⟨o, ho, huser, rfl, hproject, hkey, rfl⟩
  · rintro ⟨o, ho, huser, rfl, hproject, hkey, rfl⟩
    refine ⟨o, ?_, rfl⟩
    simp only [List.mem_filter, asked, Bool.and_eq_true, List.contains_iff_mem, beq_iff_eq]
    exact ⟨ho, ⟨huser, hproject⟩, hkey⟩

end MemoryStore.Apart

end AlertRelay.Preference
