import AlertRelay.Proofs.Log.Readings
import Mathlib.Data.List.Nodup

/-!
How often a container is written, and when it is only named.

`Reading.meetings` lists the meetings with lists and records in the order in which they come.  A
list or record is written out when it is met first and only named ever after (`Lawful`), so it is
written at most once; with the bounds on entries and on the errors around one another
(`Reading.Small`, `Reading.errors`) this bounds what is logged of any graph
(`exists_unique_reading`).
-/

namespace AlertRelay.Log

open AlertRelay.Text AlertRelay.Graph Sanitized

/-- A meeting with the list or record at a place: it is written out, or only named. -/
structure Meeting where
  place : Nat
  named : Bool

namespace Reading

mutual

/-- The meetings with lists and records, in the order in which they come. -/
def meetings : Reading → List Meeting
  | .named place => [⟨place, true⟩]
  | .list place items => ⟨place, false⟩ :: meetingsOfItems items
  | .record place entries _ => ⟨place, false⟩ :: meetingsOfEntries entries
  | .caused _ _ cause => cause.meetings
  | _ => []

def meetingsOfItems : List Reading → List Meeting
  | [] => []
  | r :: rest => r.meetings ++ meetingsOfItems rest

def meetingsOfEntries : List (String × Reading) → List Meeting
  | [] => []
  | (_, r) :: rest => r.meetings ++ meetingsOfEntries rest

end

mutual

/-- Whether no list and no record keeps more entries than are logged. -/
def Small : Reading → Prop
  | .list _ items => items.length ≤ maxEntries ∧ SmallItems items
  | .record _ entries _ => entries.length ≤ maxEntries ∧ SmallEntries entries
  | .caused _ _ cause => cause.Small
  | _ => True

def SmallItems : List Reading → Prop
  | [] => True
  | r :: rest => r.Small ∧ SmallItems rest

def SmallEntries : List (String × Reading) → Prop
  | [] => True
  | (_, r) :: rest => r.Small ∧ SmallEntries rest

end

mutual

/-- The number of errors around one another, each with what is below its cause. -/
def errors : Reading → Nat
  | .list _ items => errorsOfItems items
  | .record _ entries _ => errorsOfEntries entries
  | .error _ _ => 1
  | .caused _ _ cause => cause.errors + 1
  | _ => 0

def errorsOfItems : List Reading → Nat
  | [] => 0
  | r :: rest => max r.errors (errorsOfItems rest)

def errorsOfEntries : List (String × Reading) → Nat
  | [] => 0
  | (_, r) :: rest => max r.errors (errorsOfEntries rest)

end

theorem meetingsOfItems_eq_flatMap (rs : List Reading) :
    meetingsOfItems rs = rs.flatMap meetings := by
  induction rs with
  | nil => rfl
  | cons r rest ih => rw [meetingsOfItems, ih, List.flatMap_cons]

end Reading

/-- The places of meetings. -/
def placesOf (ms : List Meeting) : List Nat :=
  ms.map (·.place)

/-- The places that are written out. -/
def writtenOf (ms : List Meeting) : List Nat :=
  placesOf (ms.filter fun m => !m.named)

/-- Meetings after those in `seen`: what was met before is named, all else is written out. -/
def Lawful (seen : List Nat) : List Meeting → Prop
  | [] => True
  | m :: rest => (m.named = true ↔ m.place ∈ seen) ∧ Lawful (m.place :: seen) rest

namespace Lawful

variable {seen : List Nat} {ms : List Meeting}

theorem congr {seen' : List Nat} (h : Lawful seen ms) (hmem : ∀ n, n ∈ seen ↔ n ∈ seen') :
    Lawful seen' ms := by
  induction ms generalizing seen seen' with
  | nil => trivial
  | cons m rest ih =>
      refine ⟨h.1.trans (hmem _), ih h.2 fun n => ?_⟩
      rw [List.mem_cons, List.mem_cons, hmem]

theorem append {next : List Nat} {ms' : List Meeting} (h : Lawful seen ms) (h' : Lawful next ms')
    (hnext : ∀ n, n ∈ next ↔ n ∈ seen ∨ n ∈ placesOf ms) : Lawful seen (ms ++ ms') := by
  induction ms generalizing seen with
  | nil => exact h'.congr fun n => by simpa [placesOf] using hnext n
  | cons m ms ih =>
      refine ⟨h.1, ih h.2 fun n => ?_⟩
      rw [hnext]
      simp only [placesOf, List.map_cons, List.mem_cons]
      tauto

/-- What is named in a row of meetings was met before. -/
theorem named_iff {before rest : List Meeting} {m : Meeting}
    (h : Lawful seen (before ++ m :: rest)) :
    m.named = true ↔ m.place ∈ seen ∨ m.place ∈ placesOf before := by
  induction before generalizing seen with
  | nil =>
      rw [h.1]
      simp [placesOf]
  | cons first before ih =>
      rw [ih h.2]
      simp only [placesOf, List.map_cons, List.mem_cons]
      exact ⟨fun h => by tauto, fun h => by tauto⟩

/-- Nothing is written out twice. -/
theorem written_nodup (h : Lawful seen ms) :
    (writtenOf ms).Nodup ∧ ∀ n ∈ writtenOf ms, n ∉ seen := by
  induction ms generalizing seen with
  | nil => exact ⟨List.nodup_nil, fun _ h => absurd h List.not_mem_nil⟩
  | cons m rest ih =>
      obtain ⟨hnodup, hnew⟩ := ih h.2
      cases hnamed : m.named with
      | true =>
          have hwritten : writtenOf (m :: rest) = writtenOf rest := by
            simp [writtenOf, hnamed]
          rw [hwritten]
          exact ⟨hnodup, fun n hn hseen => hnew n hn (List.mem_cons_of_mem _ hseen)⟩
      | false =>
          have hwritten : writtenOf (m :: rest) = m.place :: writtenOf rest := by
            simp [writtenOf, placesOf, hnamed]
          rw [hwritten]
          refine ⟨List.nodup_cons.mpr ⟨fun hm => hnew _ hm List.mem_cons_self, hnodup⟩, ?_⟩
          refine List.forall_mem_cons.mpr ⟨?_, fun n hn hseen =>
            hnew n hn (List.mem_cons_of_mem _ hseen)⟩
          intro hseen
          rw [h.1.mpr hseen] at hnamed
          cases hnamed

end Lawful

/-- Meetings that follow the law and lead from what was met before to what was met after. -/
structure Meets (seen : List Nat) (ms : List Meeting) (after : List Nat) : Prop where
  lawful : Lawful seen ms
  mem_after : ∀ n, n ∈ after ↔ n ∈ seen ∨ n ∈ placesOf ms

namespace Meets

variable {seen next after : List Nat} {ms ms' : List Meeting} {place : Nat}

theorem none (seen : List Nat) : Meets seen [] seen :=
  ⟨trivial, fun n => by simp [placesOf]⟩

theorem name (hseen : place ∈ seen) : Meets seen [⟨place, true⟩] seen where
  lawful := ⟨by simpa using hseen, trivial⟩
  mem_after := by
    intro n
    simp only [placesOf, List.map_cons, List.map_nil, List.mem_singleton]
    exact ⟨Or.inl, fun h => h.elim id fun hn => hn ▸ hseen⟩

theorem write (hseen : place ∉ seen) (h : Meets (place :: seen) ms after) :
    Meets seen (⟨place, false⟩ :: ms) after where
  lawful := ⟨by simpa using hseen, h.lawful⟩
  mem_after := by
    intro n
    rw [h.mem_after]
    simp only [placesOf, List.map_cons, List.mem_cons]
    tauto

theorem append (h : Meets seen ms next) (h' : Meets next ms' after) :
    Meets seen (ms ++ ms') after where
  lawful := h.lawful.append h'.lawful h.mem_after
  mem_after := by
    intro n
    rw [h'.mem_after, h.mem_after]
    simp only [placesOf, List.map_append, List.mem_append]
    tauto

end Meets

mutual

theorem Reads.meets {g : Graph} {depth : Nat} {seen after : List Nat} {p : Part} {r : Reading}
    (h : Reads g depth seen p r after) : Meets seen r.meetings after := by
  match h with
  | .leaf .. => exact .none seen
  | .node _ h => exact h.meets

/-- A list or record is named if it was met before, else it is written out, and its parts after
it. -/
theorem ReadsNode.meets {g : Graph} {depth : Nat} {seen after : List Nat} {place : Nat}
    {node : Node} {r : Reading} (h : ReadsNode g depth seen place node r after) :
    Meets seen r.meetings after := by
  match h with
  | .named _ _ hseen => exact .name hseen
  | .list hseen h => exact .write hseen h.meets
  | .record hseen h => exact .write hseen h.meets
  | .error .. => exact .none seen
  | .deep .. => exact .none seen
  | .caused _ _ _ _ h => exact h.meets

theorem ReadsItems.meets {g : Graph} {depth : Nat} {seen after : List Nat} {items : List Part}
    {rs : List Reading} (h : ReadsItems g depth seen items rs after) :
    Meets seen (Reading.meetingsOfItems rs) after := by
  match h with
  | .nil .. => exact .none seen
  | .cons hfirst h => exact hfirst.meets.append h.meets

theorem ReadsFields.meets {g : Graph} {depth : Nat} {seen after : List Nat}
    {fields : List (String × Part)} {entries : List (String × Reading)}
    (h : ReadsFields g depth seen fields entries after) :
    Meets seen (Reading.meetingsOfEntries entries) after := by
  match h with
  | .nil .. => exact .none seen
  | .secret _ _ h => exact h.meets
  | .cons _ hfirst h => exact hfirst.meets.append h.meets

end

theorem ReadsItems.length_eq {g : Graph} {depth : Nat} {seen after : List Nat}
    {items : List Part} {rs : List Reading} (h : ReadsItems g depth seen items rs after) :
    rs.length = items.length := by
  match h with
  | .nil .. => rfl
  | .cons _ h => rw [List.length_cons, List.length_cons, h.length_eq]

theorem ReadsFields.length_eq {g : Graph} {depth : Nat} {seen after : List Nat}
    {fields : List (String × Part)} {entries : List (String × Reading)}
    (h : ReadsFields g depth seen fields entries after) : entries.length = fields.length := by
  match h with
  | .nil .. => rfl
  | .secret _ _ h => rw [List.length_cons, List.length_cons, h.length_eq]
  | .cons _ _ h => rw [List.length_cons, List.length_cons, h.length_eq]

mutual

theorem Reads.small {g : Graph} {depth : Nat} {seen after : List Nat} {p : Part} {r : Reading}
    (h : Reads g depth seen p r after) : r.Small := by
  match h with
  | .leaf .. => trivial
  | .node _ h => exact h.small

theorem ReadsNode.small {g : Graph} {depth : Nat} {seen after : List Nat} {place : Nat}
    {node : Node} {r : Reading} (h : ReadsNode g depth seen place node r after) : r.Small := by
  match h with
  | .named .. => trivial
  | .list _ h => exact ⟨le_of_eq_of_le h.length_eq (List.length_take_le _ _), h.small⟩
  | .record _ h => exact ⟨le_of_eq_of_le h.length_eq (List.length_take_le _ _), h.small⟩
  | .error .. => trivial
  | .deep .. => trivial
  | .caused _ _ _ _ h => exact h.small

theorem ReadsItems.small {g : Graph} {depth : Nat} {seen after : List Nat} {items : List Part}
    {rs : List Reading} (h : ReadsItems g depth seen items rs after) :
    Reading.SmallItems rs := by
  match h with
  | .nil .. => trivial
  | .cons hfirst h => exact ⟨hfirst.small, h.small⟩

theorem ReadsFields.small {g : Graph} {depth : Nat} {seen after : List Nat}
    {fields : List (String × Part)} {entries : List (String × Reading)}
    (h : ReadsFields g depth seen fields entries after) : Reading.SmallEntries entries := by
  match h with
  | .nil .. => trivial
  | .secret _ _ h => exact ⟨trivial, h.small⟩
  | .cons _ hfirst h => exact ⟨hfirst.small, h.small⟩

end

mutual

/-- A cause is one deeper than its error, and followed only below the greatest depth. -/
theorem Reads.errors_le {g : Graph} {depth : Nat} {seen after : List Nat} {p : Part} {r : Reading}
    (h : Reads g depth seen p r after) : r.errors ≤ max 1 (maxDepth - depth) := by
  match h with
  | .leaf .. => exact Nat.zero_le _
  | .node _ h => exact h.errors_le

theorem ReadsNode.errors_le {g : Graph} {depth : Nat} {seen after : List Nat} {place : Nat}
    {node : Node} {r : Reading} (h : ReadsNode g depth seen place node r after) :
    r.errors ≤ max 1 (maxDepth - depth) := by
  match h with
  | .named .. => exact Nat.zero_le _
  | .list _ h =>
      have := h.errors_le
      simp only [Reading.errors]
      omega
  | .record _ h =>
      have := h.errors_le
      simp only [Reading.errors]
      omega
  | .error .. => exact Nat.le_max_left _ _
  | .deep .. => exact Nat.le_max_left _ _
  | .caused _ _ _ hdepth h =>
      have := h.errors_le
      simp only [Reading.errors]
      omega

theorem ReadsItems.errors_le {g : Graph} {depth : Nat} {seen after : List Nat}
    {items : List Part} {rs : List Reading} (h : ReadsItems g depth seen items rs after) :
    Reading.errorsOfItems rs ≤ max 1 (maxDepth - depth) := by
  match h with
  | .nil .. => exact Nat.zero_le _
  | .cons hfirst h => exact Nat.max_le.mpr ⟨hfirst.errors_le, h.errors_le⟩

theorem ReadsFields.errors_le {g : Graph} {depth : Nat} {seen after : List Nat}
    {fields : List (String × Part)} {entries : List (String × Reading)}
    (h : ReadsFields g depth seen fields entries after) :
    Reading.errorsOfEntries entries ≤ max 1 (maxDepth - depth) := by
  match h with
  | .nil .. => exact Nat.zero_le _
  | .secret _ _ h => exact Nat.max_le.mpr ⟨Nat.zero_le _, h.errors_le⟩
  | .cons _ hfirst h => exact Nat.max_le.mpr ⟨hfirst.errors_le, h.errors_le⟩

end

theorem Reading.small_of_mem {rs : List Reading} (h : SmallItems rs) : ∀ r ∈ rs, r.Small := by
  induction rs with
  | nil => exact fun _ hr => absurd hr List.not_mem_nil
  | cons r rest ih => exact List.forall_mem_cons.mpr ⟨h.1, ih h.2⟩

theorem Reading.errors_le_of_mem {rs : List Reading} {bound : Nat}
    (h : errorsOfItems rs ≤ bound) : ∀ r ∈ rs, r.errors ≤ bound := by
  induction rs with
  | nil => exact fun _ hr => absurd hr List.not_mem_nil
  | cons r rest ih =>
      obtain ⟨hfirst, hrest⟩ := Nat.max_le.mp h
      exact List.forall_mem_cons.mpr ⟨hfirst, ih hrest⟩

/-- Whatever graph accompanies a log record, with whatever ways back among its parts, making it
safe comes to an end, in one way only: every list and record is written out at most once, no list
keeps more than 100 items, no record more than 100 of its fields, and at most three errors stand
around one another. -/
theorem exists_unique_reading {g : Graph} (hg : g.Proper) {params : List Part}
    (hparams : ∀ p ∈ params, g.Holds p) :
    ∃ rs after, ReadsItems g 0 [] params rs after ∧
      (∀ rs' after', ReadsItems g 0 [] params rs' after' → rs' = rs ∧ after' = after) ∧
      ofValues (params.map g.value) =
        (if maxContext < unitCount (jsonChars (.list (rs.map Reading.sanitized))) then oversized
        else rs.map Reading.sanitized) ∧
      (writtenOf (rs.flatMap Reading.meetings)).Nodup ∧
      ∀ r ∈ rs, r.Small ∧ r.errors ≤ 3 := by
  obtain ⟨rs, after, hreads, hresult⟩ := exists_reads_ofValues hg hparams
  refine ⟨rs, after, hreads, ?_, hresult, ?_, ?_⟩
  · intro rs' after' hreads'
    exact hreads'.unique hreads
  · rw [← Reading.meetingsOfItems_eq_flatMap]
    exact hreads.meets.lawful.written_nodup.1
  · intro r hr
    exact ⟨Reading.small_of_mem hreads.small r hr,
      Reading.errors_le_of_mem hreads.errors_le r hr⟩

/-- A list, a record and an error that all lead back to one another. -/
def tangled : Graph :=
  ⟨#[.list [.node 1, .node 2, .node 0], .record [("up", .node 0), ("reason", .node 2)],
    .error .error [("message", .simple (.text "lost")), ("cause", .node 1)]]⟩

theorem tangled_proper : tangled.Proper := by
  intro place node hnode
  match place, hnode with
  | 0, hnode => exact Option.some.inj hnode ▸ by simp [Node.Proper, Holds, tangled]
  | 1, hnode => exact Option.some.inj hnode ▸ by simp [Node.Proper, Holds, tangled]
  | 2, hnode =>
      exact Option.some.inj hnode ▸
        by simp [Node.Proper, Holds, tangled, Value.isLeaf, errorTexts, Assoc.get?]

theorem tangled_reading : tangled.Proper ∧ (∀ p ∈ [Part.node 2, .node 0], tangled.Holds p) ∧
    ∃ rs after, ReadsItems tangled 0 [] [.node 2, .node 0] rs after ∧
      (∀ rs' after', ReadsItems tangled 0 [] [.node 2, .node 0] rs' after' →
        rs' = rs ∧ after' = after) ∧
      ofValues ([.node 2, .node 0].map tangled.value) =
        (if maxContext < unitCount (jsonChars (.list (rs.map Reading.sanitized))) then oversized
        else rs.map Reading.sanitized) ∧
      (writtenOf (rs.flatMap Reading.meetings)).Nodup ∧
      ∀ r ∈ rs, r.Small ∧ r.errors ≤ 3 := by
  have hparams : ∀ p ∈ [Part.node 2, .node 0], tangled.Holds p := by simp [Holds, tangled]
  exact ⟨tangled_proper, hparams, exists_unique_reading tangled_proper hparams⟩

end AlertRelay.Log
