import AlertRelay.Number.Reading
import AlertRelay.Value.Basic

/-!
The order in which the fields of a record are listed: names that are small natural numbers
first, in ascending order, then all others in the order in which they were given.
-/

namespace AlertRelay

/-- The number that a field name writes, if it counts as an index: below `2 ^ 32 - 1` and
without needless zeros. -/
def indexOf? (name : String) : Option Nat :=
  match name.toList with
  | [] => none
  | c :: rest =>
    if (c :: rest).all Numeral.isDigit && (c != '0' || rest.isEmpty) && rest.length < 10 then
      let n := Numeral.natOf 10 (c :: rest)
      if n < 4294967295 then some n else none
    else none

/-- Puts a field with an index into its place among fields with ascending indices. -/
def insertIndexed {α : Type} (n : Nat) (field : String × α) :
    List (Nat × String × α) → List (Nat × String × α)
  | [] => [(n, field)]
  | (m, other) :: rest =>
    if n < m then (n, field) :: (m, other) :: rest
    else (m, other) :: insertIndexed n field rest

/-- The fields whose names are indices, in ascending order. -/
def indexedFields {α : Type} : List (String × α) → List (Nat × String × α)
  | [] => []
  | (k, v) :: rest =>
    match indexOf? k with
    | some n => insertIndexed n (k, v) (indexedFields rest)
    | none => indexedFields rest

/-- The fields in the order in which they are listed. -/
def listedFields {α : Type} (fields : List (String × α)) : List (String × α) :=
  (indexedFields fields).map (·.2) ++ fields.filter fun f => (indexOf? f.1).isNone

section Order

variable {α β : Type}

theorem insertIndexed_perm (n : Nat) (field : String × α) (rest : List (Nat × String × α)) :
    (insertIndexed n field rest).Perm ((n, field) :: rest) := by
  induction rest with
  | nil => exact .refl _
  | cons other rest ih =>
    simp only [insertIndexed]
    split
    · exact .refl _
    · exact (ih.cons _).trans (.swap _ _ _)

theorem indexedFields_perm (fields : List (String × α)) :
    ((indexedFields fields).map (·.2)).Perm
      (fields.filter fun f => !(indexOf? f.1).isNone) := by
  induction fields with
  | nil => exact .refl _
  | cons field rest ih =>
    obtain ⟨k, v⟩ := field
    cases h : indexOf? k with
    | none => simpa [indexedFields, h] using ih
    | some n =>
      have hput : ((insertIndexed n (k, v) (indexedFields rest)).map (·.2)).Perm
          ((k, v) :: rest.filter fun f => !(indexOf? f.1).isNone) :=
        ((insertIndexed_perm n (k, v) (indexedFields rest)).map Prod.snd).trans (ih.cons (k, v))
      simpa [indexedFields, h] using hput

/-- The listing changes the order only. -/
theorem listedFields_perm (fields : List (String × α)) : (listedFields fields).Perm fields :=
  ((indexedFields_perm fields).append_right _).trans
    (List.perm_append_comm.trans (List.filter_append_perm _ fields))

theorem insertIndexed_map (F : α → β) (n : Nat) (k : String) (v : α)
    (rest : List (Nat × String × α)) :
    insertIndexed n (k, F v) (rest.map fun f => (f.1, f.2.1, F f.2.2)) =
      (insertIndexed n (k, v) rest).map fun f => (f.1, f.2.1, F f.2.2) := by
  induction rest with
  | nil => rfl
  | cons other rest ih =>
    simp only [List.map_cons, insertIndexed, ih]
    split <;> rfl

theorem indexedFields_map (F : α → β) (fields : List (String × α)) :
    indexedFields (fields.map fun f => (f.1, F f.2)) =
      (indexedFields fields).map fun f => (f.1, f.2.1, F f.2.2) := by
  induction fields with
  | nil => rfl
  | cons field rest ih =>
    simp only [List.map_cons, indexedFields, ih]
    split
    · exact insertIndexed_map F _ _ _ _
    · rfl

/-- The order depends on the names only. -/
theorem listedFields_map (F : α → β) (fields : List (String × α)) :
    listedFields (fields.map fun f => (f.1, F f.2)) =
      (listedFields fields).map fun f => (f.1, F f.2) := by
  simp only [listedFields, indexedFields_map, List.map_append, List.map_map, List.filter_map,
    Function.comp_def]

end Order

example : (listedFields [("b", 1), ("10", 2), ("a", 3), ("9", 4)]).map (·.1) =
    ["9", "10", "b", "a"] := by decide +kernel

end AlertRelay
