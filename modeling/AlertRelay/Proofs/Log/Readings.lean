import AlertRelay.Proofs.Log.Secrets
import AlertRelay.Value.Graph
import Mathlib.Data.List.Perm.Subperm

/-!
Graphs of containers made safe for the log.

`Reads` says, place by place, how a part of a graph is made safe: in what order the parts of a
container are taken, which of them are left out, when a list or record is only named and when a
cause is not followed.  A `Reading` keeps what was met on the way.  The values that a graph
stands for are unfolded, so that a container holds itself only as `Value.again`; main statement:
making them safe is a reading of the graph, whichever way its parts lead back to one another
(`exists_reads_ofValues`), and there is no other reading (`ReadsItems.unique`).
-/

namespace AlertRelay

/-- Whether a value has no parts and stands for no container. -/
def Value.isLeaf : Value → Bool
  | .list _ _ => false
  | .record _ _ => false
  | .error _ _ _ => false
  | .again _ => false
  | _ => true

namespace Graph

/-- Whether a part is there: a value without parts, or the container at a place. -/
def Holds (g : Graph) : Part → Prop
  | .simple v => v.isLeaf = true
  | .node place => place < g.nodes.size

/-- A container whose parts are there.  The fields of a record have different names, and the
texts of an error are texts. -/
def Node.Proper (g : Graph) : Node → Prop
  | .list items => ∀ p ∈ items, g.Holds p
  | .record fields => (fields.map (·.1)).Nodup ∧ ∀ f ∈ fields, g.Holds f.2
  | .error _ fields => (∀ f ∈ fields, g.Holds f.2) ∧
      ∀ k ∈ Log.errorTexts, ∀ p, Assoc.get? k fields = some p → ∃ s, p = .simple (.text s)

/-- A graph of such containers. -/
def Proper (g : Graph) : Prop :=
  ∀ (place : Nat) (node : Node), g.nodes[place]? = some node → node.Proper g

/-- Whether a container is remembered when it was written: lists and records are, errors are
not. -/
def Node.isRemembered : Node → Bool
  | .list _ => true
  | .record _ => true
  | .error _ _ => false

/-- A part without what a container holds. -/
def Part.bare : Part → Value
  | .simple v => v
  | .node _ => .undefined

/-- The fields of a container as they are unfolded. -/
def fieldsInside (g : Graph) (room : Nat) (inside : List Nat) (fields : List (String × Part)) :
    List (String × Value) :=
  fields.map fun f => (f.1, g.valueInside room inside f.2)

/-- The cause among the fields of an error. -/
def causeOf? (fields : List (String × Part)) : Option Part :=
  match Assoc.get? "cause" fields with
  | some (.simple .undefined) => none
  | cause => cause

end Graph

namespace Log

open AlertRelay.Text AlertRelay.Graph Sanitized

/-- The entries of an error before its cause. -/
def ownEntries (kind : ErrorClass) (fields : List (String × Part)) : List (String × Sanitized) :=
  errorEntries kind (fields.map fun f => (f.1, f.2.bare))

/-- The note on the fields of a record that are left out. -/
def omission (total : Nat) : String × Sanitized :=
  ("__truncated__",
    plain ("[+" ++ String.ofList (Double.digitsOf (total - maxEntries)) ++ " keys omitted]"))

/-- How a part of a graph was made safe.  `named` is a list or record that was written before,
`deep` a cause that was not followed, `secret` the value of a secret field, `caused` an error with
a cause. -/
inductive Reading where
  | leaf (v : Value)
  | named (place : Nat)
  | deep
  | secret
  | list (place : Nat) (items : List Reading)
  | record (place : Nat) (entries : List (String × Reading)) (total : Nat)
  | error (place : Nat) (entries : List (String × Sanitized))
  | caused (place : Nat) (entries : List (String × Sanitized)) (cause : Reading)

/-- The entries that an error has before its cause, as they come from its texts. -/
inductive OwnEntry (kind : ErrorClass) (fields : List (String × Part)) :
    String → Sanitized → Prop
  | unnamed (h : Assoc.get? "name" fields = none) : OwnEntry kind fields "name" (plain kind.name)
  | name {s : String} (h : Assoc.get? "name" fields = some (.simple (.text s))) :
      OwnEntry kind fields "name" (plain s)
  | wordless (h : Assoc.get? "message" fields = none) : OwnEntry kind fields "message" (plain "")
  | message {s : String} (h : Assoc.get? "message" fields = some (.simple (.text s))) :
      OwnEntry kind fields "message" (.text (LogText.ofText s))
  | code {s : String} (h : Assoc.get? "code" fields = some (.simple (.text s))) :
      OwnEntry kind fields "code" (plain s)
  | stack {s : String} (h : Assoc.get? "stack" fields = some (.simple (.text s))) :
      OwnEntry kind fields "stack" (.text (LogText.ofText s))

theorem none_or_text {g : Graph} {kind : ErrorClass} {fields : List (String × Part)}
    (hproper : Node.Proper g (.error kind fields)) {k : String} (hk : k ∈ errorTexts) :
    Assoc.get? k fields = none ∨ ∃ s, Assoc.get? k fields = some (.simple (.text s)) := by
  cases hfield : Assoc.get? k fields with
  | none => exact Or.inl rfl
  | some p =>
      obtain ⟨s, rfl⟩ := hproper.2 k hk p hfield
      exact Or.inr ⟨s, rfl⟩

theorem mem_ownEntries {g : Graph} {kind : ErrorClass} {fields : List (String × Part)}
    (hproper : Node.Proper g (.error kind fields)) {k : String} {v : Sanitized}
    (h : (k, v) ∈ ownEntries kind fields) : OwnEntry kind fields k v := by
  have hbare (k : String) : Assoc.get? k (fields.map fun f => (f.1, f.2.bare)) =
      (Assoc.get? k fields).map Part.bare := Assoc.get?_map _ _ _
  simp only [ownEntries, errorEntries, hbare, List.append_assoc, List.mem_append] at h
  rcases h with h | h | h
  · rcases List.mem_pair.mp h with h | h
    · rcases none_or_text hproper (k := "name") (by decide) with hname | ⟨s, hname⟩
      · rw [hname] at h
        cases h
        exact .unnamed hname
      · rw [hname] at h
        cases h
        exact .name hname
    · rcases none_or_text hproper (k := "message") (by decide) with hmessage | ⟨s, hmessage⟩
      · rw [hmessage] at h
        cases h
        exact .wordless hmessage
      · rw [hmessage] at h
        cases h
        exact .message hmessage
  · split at h
    · rename_i s hcode
      obtain ⟨p, hp, hs⟩ := Option.map_eq_some_iff.mp hcode
      cases List.mem_singleton.mp h
      cases p with
      | simple v =>
          cases hs
          exact .code hp
      | node n => cases hs
    · cases h
  · rcases none_or_text hproper (k := "stack") (by decide) with hstack | ⟨s, hstack⟩
    · rw [hstack] at h
      cases h
    · rw [hstack] at h
      simp only [Option.map_some] at h
      split at h
      · cases List.mem_singleton.mp h
        exact .stack hstack
      · cases h

/-- A record has no other fields than the entries it is built from. -/
theorem mem_of_ofEntries {inherited inherited' : List String}
    {fields fields' entries : List (String × Sanitized)}
    (h : ofEntries inherited fields entries = .record inherited' fields') :
    ∀ f ∈ fields', f ∈ fields ∨ f ∈ entries := by
  induction entries generalizing inherited fields with
  | nil =>
      cases h
      exact fun f hf => Or.inl hf
  | cons e rest ih =>
      obtain ⟨k, v⟩ := e
      intro f hf
      simp only [ofEntries] at h
      split at h
      · exact (ih h f hf).imp_right (List.mem_cons_of_mem _)
      · rcases ih h f hf with hf | hf
        · rcases Assoc.eq_or_mem_of_mem_put hf with rfl | hf
          · exact Or.inr List.mem_cons_self
          · exact Or.inl hf
        · exact Or.inr (List.mem_cons_of_mem _ hf)

theorem exists_ofEntries_eq (inherited : List String)
    (fields entries : List (String × Sanitized)) :
    ∃ inherited' fields', ofEntries inherited fields entries = .record inherited' fields' := by
  induction entries generalizing inherited fields with
  | nil => exact ⟨inherited, fields, rfl⟩
  | cons e rest ih =>
      simp only [ofEntries]
      split
      · exact ih _ _
      · exact ih _ _

namespace Reading

mutual

/-- What a reading gives for the log. -/
def sanitized : Reading → Sanitized
  | .leaf v => (ofValue 0 ⟨[], []⟩ v).1
  | .named _ => circularMark
  | .deep => truncatedMark
  | .secret => redactedMark
  | .list _ items => .list (sanitizedItems items)
  | .record _ entries total =>
    ofEntries [] []
      (sanitizedEntries entries ++ if maxEntries < total then [omission total] else [])
  | .error _ entries => .record [] entries
  | .caused _ entries cause => .record [] (entries ++ [("cause", cause.sanitized)])

def sanitizedItems : List Reading → List Sanitized
  | [] => []
  | r :: rest => r.sanitized :: sanitizedItems rest

def sanitizedEntries : List (String × Reading) → List (String × Sanitized)
  | [] => []
  | (k, r) :: rest => (k, r.sanitized) :: sanitizedEntries rest

end

theorem sanitizedItems_eq_map (rs : List Reading) : sanitizedItems rs = rs.map sanitized := by
  induction rs with
  | nil => rfl
  | cons r rest ih => simp only [sanitizedItems, ih, List.map_cons]

end Reading

mutual

/-- A part is read at a depth, after the lists and records in `seen` were written; those in the
last list are written then. -/
inductive Reads (g : Graph) : Nat → List Nat → Part → Reading → List Nat → Prop
  | leaf (depth : Nat) (seen : List Nat) (v : Value) : Reads g depth seen (.simple v) (.leaf v) seen
  | node {depth : Nat} {seen : List Nat} {place : Nat} {node : Node} {r : Reading}
      {after : List Nat} (hnode : g.nodes[place]? = some node)
      (h : ReadsNode g depth seen place node r after) : Reads g depth seen (.node place) r after

/-- The container at a place is read. -/
inductive ReadsNode (g : Graph) : Nat → List Nat → Nat → Node → Reading → List Nat → Prop
  | named (depth : Nat) {seen : List Nat} {place : Nat} {node : Node}
      (hkind : node.isRemembered = true) (hseen : place ∈ seen) :
      ReadsNode g depth seen place node (.named place) seen
  | list {depth : Nat} {seen : List Nat} {place : Nat} {items : List Part} {rs : List Reading}
      {after : List Nat} (hseen : place ∉ seen)
      (h : ReadsItems g (depth + 1) (place :: seen) (items.take maxEntries) rs after) :
      ReadsNode g depth seen place (.list items) (.list place rs) after
  | record {depth : Nat} {seen : List Nat} {place : Nat} {fields : List (String × Part)}
      {entries : List (String × Reading)} {after : List Nat} (hseen : place ∉ seen)
      (h : ReadsFields g (depth + 1) (place :: seen) ((listedFields fields).take maxEntries)
        entries after) :
      ReadsNode g depth seen place (.record fields) (.record place entries fields.length) after
  | error (depth : Nat) (seen : List Nat) (place : Nat) (kind : ErrorClass)
      {fields : List (String × Part)} (hcause : causeOf? fields = none) :
      ReadsNode g depth seen place (.error kind fields) (.error place (ownEntries kind fields)) seen
  | deep {depth : Nat} (seen : List Nat) (place : Nat) (kind : ErrorClass)
      {fields : List (String × Part)} {cause : Part} (hcause : causeOf? fields = some cause)
      (hdepth : maxDepth ≤ depth + 1) :
      ReadsNode g depth seen place (.error kind fields)
        (.caused place (ownEntries kind fields) .deep) seen
  | caused {depth : Nat} {seen : List Nat} (place : Nat) (kind : ErrorClass)
      {fields : List (String × Part)} {cause : Part} {r : Reading} {after : List Nat}
      (hcause : causeOf? fields = some cause) (hdepth : depth + 1 < maxDepth)
      (h : Reads g (depth + 1) seen cause r after) :
      ReadsNode g depth seen place (.error kind fields)
        (.caused place (ownEntries kind fields) r) after

/-- Items are read from left to right. -/
inductive ReadsItems (g : Graph) :
    Nat → List Nat → List Part → List Reading → List Nat → Prop
  | nil (depth : Nat) (seen : List Nat) : ReadsItems g depth seen [] [] seen
  | cons {depth : Nat} {seen : List Nat} {p : Part} {r : Reading} {next : List Nat}
      {items : List Part} {rs : List Reading} {after : List Nat}
      (hfirst : Reads g depth seen p r next) (h : ReadsItems g depth next items rs after) :
      ReadsItems g depth seen (p :: items) (r :: rs) after

/-- Fields are read in their order; the value of a secret is not read. -/
inductive ReadsFields (g : Graph) :
    Nat → List Nat → List (String × Part) → List (String × Reading) → List Nat → Prop
  | nil (depth : Nat) (seen : List Nat) : ReadsFields g depth seen [] [] seen
  | secret {depth : Nat} {seen : List Nat} {k : String} (hk : isSecretName k = true) (p : Part)
      {fields : List (String × Part)} {entries : List (String × Reading)} {after : List Nat}
      (h : ReadsFields g depth seen fields entries after) :
      ReadsFields g depth seen ((k, p) :: fields) ((k, .secret) :: entries) after
  | cons {depth : Nat} {seen : List Nat} {k : String} (hk : ¬ isSecretName k = true) {p : Part}
      {r : Reading} {next : List Nat} {fields : List (String × Part)}
      {entries : List (String × Reading)} {after : List Nat} (hfirst : Reads g depth seen p r next)
      (h : ReadsFields g depth next fields entries after) :
      ReadsFields g depth seen ((k, p) :: fields) ((k, r) :: entries) after

end

theorem Reads.of_node {g : Graph} {depth : Nat} {seen after : List Nat} {place : Nat} {r : Reading}
    (h : Reads g depth seen (.node place) r after) :
    ∃ node, g.nodes[place]? = some node ∧ ReadsNode g depth seen place node r after := by
  cases h with
  | node hnode h => exact ⟨_, hnode, h⟩

mutual

/-- A part is read in one way only. -/
theorem Reads.unique {g : Graph} {depth : Nat} {seen after : List Nat} {p : Part} {r : Reading}
    (h : Reads g depth seen p r after) :
    ∀ {r' after'}, Reads g depth seen p r' after' → r = r' ∧ after = after' := by
  match h with
  | .leaf .. =>
      intro r' after' h'
      cases h'
      exact ⟨rfl, rfl⟩
  | .node hnode h =>
      intro r' after' h'
      obtain ⟨node', hnode', h'⟩ := h'.of_node
      rw [Option.some.inj (hnode'.symm.trans hnode)] at h'
      exact h.unique h'

theorem ReadsNode.unique {g : Graph} {depth : Nat} {seen after : List Nat} {place : Nat}
    {node : Node} {r : Reading} (h : ReadsNode g depth seen place node r after) :
    ∀ {r' after'}, ReadsNode g depth seen place node r' after' → r = r' ∧ after = after' := by
  match h with
  | .named _ hkind hseen =>
      intro r' after' h'
      cases h' with
      | named => exact ⟨rfl, rfl⟩
      | list hseen' => exact absurd hseen hseen'
      | record hseen' => exact absurd hseen hseen'
      | error => cases hkind
      | deep => cases hkind
      | caused => cases hkind
  | .list hseen h =>
      intro r' after' h'
      cases h' with
      | named _ _ hseen' => exact absurd hseen' hseen
      | list _ h' =>
          obtain ⟨rfl, rfl⟩ := h.unique h'
          exact ⟨rfl, rfl⟩
  | .record hseen h =>
      intro r' after' h'
      cases h' with
      | named _ _ hseen' => exact absurd hseen' hseen
      | record _ h' =>
          obtain ⟨rfl, rfl⟩ := h.unique h'
          exact ⟨rfl, rfl⟩
  | .error _ _ _ _ hcause =>
      intro r' after' h'
      cases h' with
      | named _ hkind => cases hkind
      | error => exact ⟨rfl, rfl⟩
      | deep _ _ _ hcause' => cases hcause.symm.trans hcause'
      | caused _ _ hcause' => cases hcause.symm.trans hcause'
  | .deep _ _ _ hcause hdepth =>
      intro r' after' h'
      cases h' with
      | named _ hkind => cases hkind
      | error _ _ _ _ hcause' => cases hcause.symm.trans hcause'
      | deep => exact ⟨rfl, rfl⟩
      | caused _ _ _ hdepth' => exact absurd hdepth (Nat.not_le_of_lt hdepth')
  | .caused _ _ hcause hdepth h =>
      intro r' after' h'
      cases h' with
      | named _ hkind => cases hkind
      | error _ _ _ _ hcause' => cases hcause.symm.trans hcause'
      | deep _ _ _ _ hdepth' => exact absurd hdepth' (Nat.not_le_of_lt hdepth)
      | caused _ _ hcause' _ h' =>
          rw [Option.some.inj (hcause'.symm.trans hcause)] at h'
          obtain ⟨rfl, rfl⟩ := h.unique h'
          exact ⟨rfl, rfl⟩

theorem ReadsItems.unique {g : Graph} {depth : Nat} {seen after : List Nat} {items : List Part}
    {rs : List Reading} (h : ReadsItems g depth seen items rs after) :
    ∀ {rs' after'}, ReadsItems g depth seen items rs' after' → rs = rs' ∧ after = after' := by
  match h with
  | .nil .. =>
      intro rs' after' h'
      cases h'
      exact ⟨rfl, rfl⟩
  | .cons hfirst h =>
      intro rs' after' h'
      cases h' with
      | cons hfirst' h' =>
          obtain ⟨rfl, rfl⟩ := hfirst.unique hfirst'
          obtain ⟨rfl, rfl⟩ := h.unique h'
          exact ⟨rfl, rfl⟩

theorem ReadsFields.unique {g : Graph} {depth : Nat} {seen after : List Nat}
    {fields : List (String × Part)} {entries : List (String × Reading)}
    (h : ReadsFields g depth seen fields entries after) :
    ∀ {entries' after'}, ReadsFields g depth seen fields entries' after' →
      entries = entries' ∧ after = after' := by
  match h with
  | .nil .. =>
      intro entries' after' h'
      cases h'
      exact ⟨rfl, rfl⟩
  | .secret hk p h =>
      intro entries' after' h'
      cases h' with
      | secret _ _ h' =>
          obtain ⟨rfl, rfl⟩ := h.unique h'
          exact ⟨rfl, rfl⟩
      | cons hk' => exact absurd hk hk'
  | .cons hk hfirst h =>
      intro entries' after' h'
      cases h' with
      | secret hk' => exact absurd hk' hk
      | cons _ hfirst' h' =>
          obtain ⟨rfl, rfl⟩ := hfirst.unique hfirst'
          obtain ⟨rfl, rfl⟩ := h.unique h'
          exact ⟨rfl, rfl⟩

end

mutual

/-- What was written stays written. -/
theorem Reads.subset {g : Graph} {depth : Nat} {seen after : List Nat} {p : Part} {r : Reading}
    (h : Reads g depth seen p r after) : seen ⊆ after := by
  match h with
  | .leaf .. => exact List.Subset.refl _
  | .node _ h => exact h.subset

theorem ReadsNode.subset {g : Graph} {depth : Nat} {seen after : List Nat} {place : Nat}
    {node : Node} {r : Reading} (h : ReadsNode g depth seen place node r after) :
    seen ⊆ after := by
  match h with
  | .named .. => exact List.Subset.refl _
  | .list _ h => exact List.subset_of_cons_subset h.subset
  | .record _ h => exact List.subset_of_cons_subset h.subset
  | .error .. => exact List.Subset.refl _
  | .deep .. => exact List.Subset.refl _
  | .caused _ _ _ _ h => exact h.subset

theorem ReadsItems.subset {g : Graph} {depth : Nat} {seen after : List Nat} {items : List Part}
    {rs : List Reading} (h : ReadsItems g depth seen items rs after) : seen ⊆ after := by
  match h with
  | .nil .. => exact List.Subset.refl _
  | .cons hfirst h => exact List.Subset.trans hfirst.subset h.subset

theorem ReadsFields.subset {g : Graph} {depth : Nat} {seen after : List Nat}
    {fields : List (String × Part)} {entries : List (String × Reading)}
    (h : ReadsFields g depth seen fields entries after) : seen ⊆ after := by
  match h with
  | .nil .. => exact List.Subset.refl _
  | .secret _ _ h => exact h.subset
  | .cons _ hfirst h => exact List.Subset.trans hfirst.subset h.subset

end

/-- What was met accounts for a container around the present one: a list or record was written, an
error encloses. -/
def Covered (g : Graph) (met : Met) (place : Nat) : Prop :=
  ∀ node, g.nodes[place]? = some node →
    if node.isRemembered then place ∈ met.written else ∃ v, met.error? place = some v

/-- There is room to unfold what stands inside the containers at some places: they are different
places, and there is room for all others. -/
structure Room (g : Graph) (room : Nat) (inside : List Nat) : Prop where
  nodup : inside.Nodup
  bounded : ∀ place ∈ inside, place < g.nodes.size
  enough : g.nodes.size < room + inside.length

namespace Room

variable {g : Graph} {room place : Nat} {inside : List Nat}

theorem pos (h : Room g room inside) : 0 < room := by
  have hsub : inside ⊆ List.range g.nodes.size := fun place hplace =>
    List.mem_range.mpr (h.bounded place hplace)
  have hlength := (List.subperm_of_subset h.nodup hsub).length_le
  rw [List.length_range] at hlength
  have := h.enough
  omega

theorem enter (h : Room g (room + 1) inside) (hplace : place < g.nodes.size)
    (hnew : place ∉ inside) : Room g room (place :: inside) where
  nodup := List.nodup_cons.mpr ⟨hnew, h.nodup⟩
  bounded := List.forall_mem_cons.mpr ⟨hplace, h.bounded⟩
  enough := by
    have := h.enough
    rw [List.length_cons]
    omega

end Room

/-- An error that encloses the present value is the one at its place, unfolded where there was
room and inside containers that are accounted for. -/
def Encloses (g : Graph) (met : Met) (place : Nat) (v : Value) : Prop :=
  ∃ kind fields room inside, g.nodes[place]? = some (.error kind fields) ∧
    v = .error (some place) kind (g.fieldsInside room (place :: inside) fields) ∧
    Room g room (place :: inside) ∧ ∀ n ∈ inside, Covered g met n

/-- What was met accounts for the containers around a value that is unfolded. -/
structure Accounts (g : Graph) (met : Met) (room : Nat) (inside : List Nat) : Prop where
  room : Room g room inside
  covered : ∀ n ∈ inside, Covered g met n
  encloses : ∀ n v, met.error? n = some v → Encloses g met n v

section Accounts

variable {g : Graph} {met : Met} {room place : Nat} {inside written : List Nat}

theorem Covered.grow {n : Nat} (h : Covered g met n) (hsub : met.written ⊆ written) :
    Covered g { met with written := written } n := by
  intro node hnode
  have hmet := h node hnode
  split
  · rename_i hkind
    rw [if_pos hkind] at hmet
    exact hsub hmet
  · rename_i hkind
    rw [if_neg hkind] at hmet
    exact hmet

theorem Accounts.grow (h : Accounts g met room inside) (hsub : met.written ⊆ written) :
    Accounts g { met with written := written } room inside where
  room := h.room
  covered := fun n hn => (h.covered n hn).grow hsub
  encloses := by
    intro n v hv
    obtain ⟨kind, fields, room', inside', hnode, hvalue, hroom, hcovered⟩ := h.encloses n v hv
    exact ⟨kind, fields, room', inside', hnode, hvalue, hroom,
      fun m hm => (hcovered m hm).grow hsub⟩

/-- A list or record is accounted for inside it, since it was written. -/
theorem Accounts.enter (h : Accounts g met (room + 1) inside) {node : Node}
    (hnode : g.nodes[place]? = some node) (hkind : node.isRemembered = true)
    (hnew : place ∉ inside) :
    Accounts g { met with written := place :: met.written } room (place :: inside) where
  room := h.room.enter (Array.getElem?_eq_some_iff.mp hnode).1 hnew
  covered := by
    refine List.forall_mem_cons.mpr ⟨?_, ?_⟩
    · intro node' hnode'
      obtain rfl := Option.some.inj (hnode.symm.trans hnode')
      rw [if_pos hkind]
      exact List.mem_cons_self
    · exact (h.grow (List.subset_cons_self place met.written)).covered
  encloses := (h.grow (List.subset_cons_self place met.written)).encloses

theorem error?_cons (n : Nat) (v : Value) (written : List Nat) (enclosing : List (Nat × Value))
    (m : Nat) : Met.error? ⟨written, (n, v) :: enclosing⟩ m =
      if n = m then some v else Met.error? ⟨written, enclosing⟩ m := by
  by_cases h : n = m
  · simp [Met.error?, h]
  · have hne : (n == m) = false := beq_eq_false_iff_ne.mpr h
    simp [Met.error?, hne, h]

theorem Covered.enclose {n : Nat} (h : Covered g met n) (v : Value) :
    Covered g { met with enclosing := (place, v) :: met.enclosing } n := by
  intro node hnode
  have hmet := h node hnode
  split
  · rename_i hkind
    rwa [if_pos hkind] at hmet
  · rename_i hkind
    rw [if_neg hkind] at hmet
    rw [error?_cons]
    split
    · exact ⟨v, rfl⟩
    · exact hmet

/-- An error is accounted for inside its cause, since it encloses it. -/
theorem Accounts.enclose {kind : ErrorClass} {fields : List (String × Part)}
    (hnode : g.nodes[place]? = some (.error kind fields)) (hroom : Room g room (place :: inside))
    (hinside : ∀ n ∈ inside, Covered g met n)
    (hencloses : ∀ n v, met.error? n = some v → Encloses g met n v) :
    Accounts g { met with enclosing := (place, .error (some place) kind
      (g.fieldsInside room (place :: inside) fields)) :: met.enclosing } room
      (place :: inside) where
  room := hroom
  covered := by
    refine List.forall_mem_cons.mpr ⟨?_, fun n hn => (hinside n hn).enclose _⟩
    intro node hnode'
    obtain rfl := Option.some.inj (hnode.symm.trans hnode')
    rw [error?_cons]
    simp [Node.isRemembered]
  encloses := by
    intro n v hv
    rw [error?_cons] at hv
    split at hv
    · rename_i hsame
      subst hsame
      obtain rfl := Option.some.inj hv
      exact ⟨kind, fields, room, inside, hnode, rfl, hroom, fun m hm => (hinside m hm).enclose _⟩
    · obtain ⟨kind', fields', room', inside', hnode', hvalue, hroom', hcovered⟩ :=
        hencloses n v hv
      exact ⟨kind', fields', room', inside', hnode', hvalue, hroom',
        fun m hm => (hcovered m hm).enclose _⟩

end Accounts

section Unfolding

variable {g : Graph} {room place : Nat} {inside : List Nat}

theorem valueInside_simple (g : Graph) (room : Nat) (inside : List Nat) (v : Value) :
    g.valueInside room inside (.simple v) = v := by
  cases room <;> rfl

theorem valueInside_list {items : List Part} (hin : place ∉ inside)
    (hnode : g.nodes[place]? = some (.list items)) :
    g.valueInside (room + 1) inside (.node place) =
      .list (some place) (items.map (g.valueInside room (place :: inside))) := by
  simp [valueInside, hin, hnode]

theorem valueInside_record {fields : List (String × Part)} (hin : place ∉ inside)
    (hnode : g.nodes[place]? = some (.record fields)) :
    g.valueInside (room + 1) inside (.node place) =
      .record (some place) (g.fieldsInside room (place :: inside) (listedFields fields)) := by
  rw [fieldsInside, ← listedFields_map]
  simp [valueInside, hin, hnode]

theorem valueInside_error {kind : ErrorClass} {fields : List (String × Part)}
    (hin : place ∉ inside) (hnode : g.nodes[place]? = some (.error kind fields)) :
    g.valueInside (room + 1) inside (.node place) =
      .error (some place) kind (g.fieldsInside room (place :: inside) fields) := by
  simp [valueInside, fieldsInside, hin, hnode]

theorem isLeaf_valueInside (hplace : place < g.nodes.size) (room : Nat) (inside : List Nat) :
    (g.valueInside room inside (.node place)).isLeaf = false := by
  cases room with
  | zero => rfl
  | succ room =>
      simp only [valueInside]
      split
      · rfl
      · rw [Array.getElem?_eq_getElem hplace]
        cases g.nodes[place] <;> rfl

theorem valueInside_ne_undefined {p : Part} (hp : g.Holds p) (hne : p ≠ .simple .undefined)
    (room : Nat) (inside : List Nat) : g.valueInside room inside p ≠ .undefined := by
  cases p with
  | simple v =>
      rw [valueInside_simple]
      rintro rfl
      exact hne rfl
  | node n =>
      intro hundefined
      have hleaf := isLeaf_valueInside hp room inside
      rw [hundefined] at hleaf
      cases hleaf

theorem mem_of_mem_take_listed {α : Type} {fields : List (String × α)} {n : Nat} {f : String × α}
    (hf : f ∈ (listedFields fields).take n) : f ∈ fields :=
  (listedFields_perm fields).mem_iff.mp (List.mem_of_mem_take hf)

theorem get?_of_causeOf? {fields : List (String × Part)} {cause : Part}
    (h : causeOf? fields = some cause) :
    Assoc.get? "cause" fields = some cause ∧ cause ≠ .simple .undefined := by
  unfold causeOf? at h
  split at h
  · cases h
  · rename_i hother
    refine ⟨h, ?_⟩
    rintro rfl
    exact hother h

/-- Errors with the same texts have the same entries. -/
theorem errorEntries_eq {kind : ErrorClass} {fs gs : List (String × Value)}
    (htext : ∀ k ∈ errorTexts, Assoc.get? k fs = Assoc.get? k gs)
    (hcode : (Assoc.get? "code" fs).bind Value.text? = (Assoc.get? "code" gs).bind Value.text?) :
    errorEntries kind fs = errorEntries kind gs := by
  have hentries (fields : List (String × Value)) : errorEntries kind fields =
      [("name", (Assoc.get? "name" fields).elim (plain kind.name) ofRaw),
        ("message", (Assoc.get? "message" fields).elim (plain "") messageOf)] ++
      ((Assoc.get? "code" fields).bind Value.text?).elim [] (fun s => [("code", plain s)]) ++
      (Assoc.get? "stack" fields).elim []
        (fun v => if v.isTruthy then [("stack", messageOf v)] else []) := by
    unfold errorEntries
    generalize Assoc.get? "stack" fields = stack
    rcases Assoc.get? "code" fields with _ | v
    · cases stack <;> rfl
    · cases v <;> cases stack <;> rfl
  rw [hentries, hentries, htext "name" (by decide), htext "message" (by decide),
    htext "stack" (by decide), hcode]

/-- The texts of an error have no parts, so its entries do not depend on what is unfolded. -/
theorem errorEntries_inside {kind : ErrorClass} {fields : List (String × Part)}
    (hproper : Node.Proper g (.error kind fields)) (room : Nat) (inside : List Nat) :
    errorEntries kind (g.fieldsInside room inside fields) = ownEntries kind fields := by
  have hget (k : String) : Assoc.get? k (g.fieldsInside room inside fields) =
      (Assoc.get? k fields).map (g.valueInside room inside) := Assoc.get?_map _ _ _
  have hbare (k : String) : Assoc.get? k (fields.map fun f => (f.1, f.2.bare)) =
      (Assoc.get? k fields).map Part.bare := Assoc.get?_map _ _ _
  refine errorEntries_eq ?_ ?_
  · intro k hk
    rw [hget, hbare]
    rcases none_or_text hproper hk with hnone | ⟨s, htext⟩
    · rw [hnone]
      rfl
    · simp only [htext, Option.map_some, valueInside_simple, Part.bare]
  · rw [hget, hbare]
    cases hfield : Assoc.get? "code" fields with
    | none => rfl
    | some p =>
        cases p with
        | simple v => simp only [Option.map_some, valueInside_simple, Part.bare]
        | node n =>
            have hleaf : (g.valueInside room inside (.node n)).isLeaf = false :=
              isLeaf_valueInside (hproper.1 _ (Assoc.mem_of_get? hfield)) room inside
            simp only [Option.map_some, Part.bare, Option.bind_some]
            generalize g.valueInside room inside (.node n) = v at hleaf
            cases v with
            | text s => cases hleaf
            | _ => rfl

end Unfolding

section Errors

variable {follow : CauseReader} {depth : Nat} {met : Met} {id : Option Nat} {kind : ErrorClass}
  {fields : List (String × Value)}

theorem ofError_of_no_cause (h : Assoc.get? "cause" fields = none ∨
      Assoc.get? "cause" fields = some .undefined) :
    ofError follow depth met id kind fields = (.record [] (errorEntries kind fields), met) := by
  unfold ofError
  rcases h with h | h <;> rw [h]

theorem ofError_of_cause {cause : Value} (h : Assoc.get? "cause" fields = some cause)
    (hcause : cause ≠ .undefined) :
    ofError follow depth met id kind fields =
      if maxDepth ≤ depth + 1 then
        (.record [] (errorEntries kind fields ++ [("cause", truncatedMark)]), met)
      else
        let inner : Met :=
          match id with
          | some n => { met with enclosing := (n, .error id kind fields) :: met.enclosing }
          | none => met
        let (safe, after) := follow (depth + 1) inner cause
        (.record [] (errorEntries kind fields ++ [("cause", safe)]),
          { met with written := after.written }) := by
  unfold ofError
  rw [h]
  cases cause with
  | undefined => exact absurd rfl hcause
  | _ => rfl

end Errors

/-- What a value is made safe to is a reading of the part it stands for. -/
def Renders (g : Graph) (depth : Nat) (met : Met) (p : Part) (result : Sanitized × Met) : Prop :=
  ∃ r after, Reads g depth met.written p r after ∧
    result = (r.sanitized, { met with written := after })

/-- A reader of values renders, at a depth, whatever is unfolded with that much room. -/
def Follows (g : Graph) (follow : CauseReader) (depth room : Nat) : Prop :=
  ∀ {met : Met} {inside : List Nat} {p : Part}, Accounts g met room inside → g.Holds p →
    Renders g depth met p (follow depth met (g.valueInside room inside p))

section Rendering

variable {g : Graph} {follow : CauseReader} {depth room : Nat} {inside : List Nat} {met : Met}

theorem ofError_renders (hg : g.Proper) {place : Nat} {kind : ErrorClass}
    {fields : List (String × Part)}
    (hfollow : depth + 1 < maxDepth → ∀ room, Follows g follow (depth + 1) room)
    (hnode : g.nodes[place]? = some (.error kind fields)) (hroom : Room g room (place :: inside))
    (hinside : ∀ n ∈ inside, Covered g met n)
    (hencloses : ∀ n v, met.error? n = some v → Encloses g met n v) :
    Renders g depth met (.node place)
      (ofError follow depth met (some place) kind
        (g.fieldsInside room (place :: inside) fields)) := by
  have hproper := hg place _ hnode
  have hentries := errorEntries_inside hproper room (place :: inside)
  have hget : Assoc.get? "cause" (g.fieldsInside room (place :: inside) fields) =
      (Assoc.get? "cause" fields).map (g.valueInside room (place :: inside)) :=
    Assoc.get?_map _ _ _
  cases hcause : causeOf? fields with
  | none =>
      refine ⟨_, _, .node hnode (.error depth met.written place kind hcause), ?_⟩
      rw [ofError_of_no_cause, hentries]
      · rfl
      · rw [hget]
        unfold causeOf? at hcause
        split at hcause
        · rename_i hfield
          rw [hfield]
          exact Or.inr (congrArg some (valueInside_simple g _ _ _))
        · rw [hcause]
          exact Or.inl rfl
  | some cause =>
      have hfield := get?_of_causeOf? hcause
      have hholds : g.Holds cause := hproper.1 _ (Assoc.mem_of_get? hfield.1)
      have hvalue : g.valueInside room (place :: inside) cause ≠ .undefined :=
        valueInside_ne_undefined hholds hfield.2 room (place :: inside)
      rw [hfield.1, Option.map_some] at hget
      rw [ofError_of_cause hget hvalue, hentries]
      by_cases hdeep : maxDepth ≤ depth + 1
      · rw [if_pos hdeep]
        exact ⟨_, _, .node hnode (.deep met.written place kind hcause hdeep), rfl⟩
      · rw [if_neg hdeep]
        have hdepth := Nat.lt_of_not_le hdeep
        obtain ⟨r, after, hreads, hresult⟩ := hfollow hdepth room
          (Accounts.enclose hnode hroom hinside hencloses) hholds
        refine ⟨_, _, .node hnode (.caused place kind hcause hdepth hreads), ?_⟩
        simp only [hresult]
        rfl

theorem ofValueWith_of_isLeaf {v : Value} (h : v.isLeaf = true) :
    ofValueWith follow depth met v = ((ofValue 0 ⟨[], []⟩ v).1, met) := by
  cases v with
  | list => cases h
  | record => cases h
  | error => cases h
  | again => cases h
  | _ => rfl

theorem ofItemsWith_renders (hread : Follows g (ofValueWith follow) depth room) (items : List Part)
    (hitems : ∀ p ∈ items, g.Holds p) (left : Nat) (h : Accounts g met room inside) :
    ∃ rs after, ReadsItems g depth met.written (items.take left) rs after ∧
      ofItemsWith follow depth met left (items.map (g.valueInside room inside)) =
        (Reading.sanitizedItems rs, { met with written := after }) := by
  induction items generalizing left met with
  | nil =>
      refine ⟨[], met.written, ?_, rfl⟩
      rw [List.take_nil]
      exact .nil depth met.written
  | cons p items ih =>
      cases left with
      | zero => exact ⟨[], met.written, .nil depth met.written, rfl⟩
      | succ left =>
          obtain ⟨hp, hrest⟩ := List.forall_mem_cons.mp hitems
          obtain ⟨r, next, hreads, hresult⟩ := hread h hp
          obtain ⟨rs, after, hmore, hresults⟩ := ih hrest left (h.grow hreads.subset)
          refine ⟨r :: rs, after, .cons hreads hmore, ?_⟩
          simp only [List.map_cons, ofItemsWith, hresult, hresults, Reading.sanitizedItems]

theorem ofFieldsWith_renders (hread : Follows g (ofValueWith follow) depth room)
    (fields : List (String × Part)) (hfields : ∀ f ∈ fields, g.Holds f.2) (total left : Nat)
    (h : Accounts g met room inside) :
    ∃ entries after, ReadsFields g depth met.written (fields.take left) entries after ∧
      ofFieldsWith follow depth met total left (g.fieldsInside room inside fields) =
        (Reading.sanitizedEntries entries ++
          (if left < fields.length then [omission total] else []),
          { met with written := after }) := by
  induction fields generalizing left met with
  | nil =>
      refine ⟨[], met.written, ?_, rfl⟩
      rw [List.take_nil]
      exact .nil depth met.written
  | cons f fields ih =>
      obtain ⟨k, p⟩ := f
      obtain ⟨hp, hrest⟩ := List.forall_mem_cons.mp hfields
      cases left with
      | zero => exact ⟨[], met.written, .nil depth met.written, rfl⟩
      | succ left =>
          have hlength : left + 1 < ((k, p) :: fields).length ↔ left < fields.length := by
            rw [List.length_cons]
            omega
          by_cases hk : isSecretName k = true
          · obtain ⟨entries, after, hmore, hresults⟩ := ih hrest left h
            refine ⟨(k, .secret) :: entries, after, .secret hk p hmore, ?_⟩
            unfold fieldsInside at hresults ⊢
            simp only [List.map_cons, ofFieldsWith, if_pos hk, hresults, hlength,
              Reading.sanitizedEntries, Reading.sanitized, List.cons_append]
          · obtain ⟨r, next, hreads, hresult⟩ := hread h hp
            obtain ⟨entries, after, hmore, hresults⟩ := ih hrest left (h.grow hreads.subset)
            refine ⟨(k, r) :: entries, after, .cons hk hreads hmore, ?_⟩
            unfold fieldsInside at hresults ⊢
            simp only [List.map_cons, ofFieldsWith, if_neg hk, hresult, hresults, hlength,
              Reading.sanitizedEntries, List.cons_append]

/-- A container that is met again inside itself: a list or record is named, an error is made safe
anew. -/
theorem ofAgain_renders (hg : g.Proper)
    (hfollow : depth + 1 < maxDepth → ∀ room, Follows g follow (depth + 1) room) {place : Nat}
    (hplace : place < g.nodes.size) (h : Accounts g met room inside) (hin : place ∈ inside) :
    Renders g depth met (.node place) (ofValueWith follow depth met (.again place)) := by
  have hnode : g.nodes[place]? = some g.nodes[place] := Array.getElem?_eq_getElem hplace
  have hcovered := h.covered place hin _ hnode
  by_cases hkind : g.nodes[place].isRemembered = true
  · rw [if_pos hkind] at hcovered
    have herror : met.error? place = none := by
      rw [Option.eq_none_iff_forall_ne_some]
      intro v hv
      obtain ⟨kind, fields, _, _, hnode', _⟩ := h.encloses place v hv
      rw [Option.some.inj (hnode.symm.trans hnode')] at hkind
      cases hkind
    refine ⟨_, _, .node hnode (.named depth hkind hcovered), ?_⟩
    simp only [ofValueWith, herror]
    rfl
  · rw [if_neg hkind] at hcovered
    obtain ⟨v, hv⟩ := hcovered
    obtain ⟨kind, fields, room', inside', hnode', rfl, hroom', hcovered'⟩ := h.encloses place v hv
    simp only [ofValueWith, hv]
    exact ofError_renders hg hfollow hnode' hroom' hcovered' h.encloses

theorem ofList_renders (hg : g.Proper) (hread : Follows g (ofValueWith follow) (depth + 1) room)
    {place : Nat} {items : List Part} (hnode : g.nodes[place]? = some (.list items))
    (h : Accounts g met (room + 1) inside) (hnew : place ∉ inside) :
    Renders g depth met (.node place) (ofValueWith follow depth met
      (.list (some place) (items.map (g.valueInside room (place :: inside))))) := by
  by_cases hseen : place ∈ met.written
  · refine ⟨_, _, .node hnode (.named depth rfl hseen), ?_⟩
    simp only [ofValueWith, Met.has, List.contains_eq_mem, hseen, decide_true, if_true]
    rfl
  · obtain ⟨rs, after, hreads, hresult⟩ := ofItemsWith_renders hread items
      (hg place _ hnode) maxEntries (h.enter hnode rfl hnew)
    refine ⟨_, _, .node hnode (.list hseen hreads), ?_⟩
    simp only [ofValueWith, Met.has, List.contains_eq_mem, hseen, decide_false,
      Bool.false_eq_true, if_false, Met.write, hresult]
    rfl

theorem ofRecord_renders (hg : g.Proper) (hread : Follows g (ofValueWith follow) (depth + 1) room)
    {place : Nat} {fields : List (String × Part)} (hnode : g.nodes[place]? = some (.record fields))
    (h : Accounts g met (room + 1) inside) (hnew : place ∉ inside) :
    Renders g depth met (.node place) (ofValueWith follow depth met
      (.record (some place) (g.fieldsInside room (place :: inside) (listedFields fields)))) := by
  by_cases hseen : place ∈ met.written
  · refine ⟨_, _, .node hnode (.named depth rfl hseen), ?_⟩
    simp only [ofValueWith, Met.has, List.contains_eq_mem, hseen, decide_true, if_true]
    rfl
  · have hlength : (listedFields fields).length = fields.length :=
      (listedFields_perm fields).length_eq
    have hheld : ∀ f ∈ listedFields fields, g.Holds f.2 := fun f hf =>
      (hg place _ hnode).2 f ((listedFields_perm fields).mem_iff.mp hf)
    have htotal : (g.fieldsInside room (place :: inside) (listedFields fields)).length =
        fields.length := (List.length_map _).trans hlength
    obtain ⟨entries, after, hreads, hresult⟩ := ofFieldsWith_renders hread
      (listedFields fields) hheld fields.length maxEntries (h.enter hnode rfl hnew)
    refine ⟨_, _, .node hnode (.record hseen hreads), ?_⟩
    rw [hlength] at hresult
    simp only [ofValueWith, Met.has, List.contains_eq_mem, hseen, decide_false,
      Bool.false_eq_true, if_false, Met.write, htotal, hresult]
    rfl

/-- The induction is on the room: containers are unfolded inside others until they meet themselves.
Where an error meets itself it is unfolded anew, and only its cause, one step deeper, is followed by
`follow`. -/
theorem ofValueWith_renders (hg : g.Proper)
    (hfollow : ∀ d, depth ≤ d → d + 1 < maxDepth → ∀ room, Follows g follow (d + 1) room)
    (room : Nat) : Follows g (ofValueWith follow) depth room := by
  induction room generalizing depth with
  | zero =>
      intro met inside p h hp
      exact absurd h.room.pos (Nat.lt_irrefl 0)
  | succ room ih =>
      intro met inside p h hp
      cases p with
      | simple v =>
          rw [valueInside_simple, ofValueWith_of_isLeaf hp]
          exact ⟨_, _, .leaf depth met.written v, rfl⟩
      | node place =>
          have hcause := hfollow depth (Nat.le_refl depth)
          have hread : Follows g (ofValueWith follow) (depth + 1) room :=
            ih fun d hd => hfollow d (Nat.le_of_succ_le hd)
          by_cases hin : place ∈ inside
          · rw [valueInside_of_mem hin]
            exact ofAgain_renders hg hcause hp h hin
          · obtain ⟨node, hnode⟩ : ∃ node, g.nodes[place]? = some node :=
              ⟨_, Array.getElem?_eq_getElem hp⟩
            cases node with
            | list items =>
                rw [valueInside_list hin hnode]
                exact ofList_renders hg hread hnode h hin
            | record fields =>
                rw [valueInside_record hin hnode]
                exact ofRecord_renders hg hread hnode h hin
            | error kind fields =>
                rw [valueInside_error hin hnode]
                exact ofError_renders hg hcause hnode (h.room.enter hp hin) h.covered h.encloses

theorem ofValueUpTo_follows (hg : g.Proper) (causes : Nat) (h : maxDepth ≤ causes + depth + 1)
    (room : Nat) : Follows g (ofValueUpTo causes) depth room := by
  induction causes generalizing depth room with
  | zero => exact ofValueWith_renders hg (fun d hd hdeep => absurd hdeep (by omega)) room
  | succ causes ih => exact ofValueWith_renders hg (fun d hd _ => ih (by omega)) room

end Rendering

/-- Before anything was met, all containers can be unfolded. -/
theorem accounts_start (g : Graph) (written : List Nat) :
    Accounts g ⟨written, []⟩ (g.nodes.size + 1) [] where
  room := ⟨List.nodup_nil, fun _ h => absurd h List.not_mem_nil, by simp⟩
  covered := fun _ h => absurd h List.not_mem_nil
  encloses := fun _ _ h => by cases h

theorem exists_reads_ofValuesFrom {g : Graph} (hg : g.Proper) {params : List Part}
    (hparams : ∀ p ∈ params, g.Holds p) (written : List Nat) :
    ∃ rs after, ReadsItems g 0 written params rs after ∧
      ofValuesFrom ⟨written, []⟩ (params.map g.value) = rs.map Reading.sanitized := by
  induction params generalizing written with
  | nil => exact ⟨[], written, .nil 0 written, rfl⟩
  | cons p params ih =>
      obtain ⟨hp, hrest⟩ := List.forall_mem_cons.mp hparams
      have hfollows : Follows g (ofValueUpTo (maxDepth - 1)) 0 (g.nodes.size + 1) :=
        ofValueUpTo_follows hg (maxDepth - 1) (by decide) _
      obtain ⟨r, next, hreads, hresult⟩ := hfollows (accounts_start g written) hp
      obtain ⟨rs, after, hmore, hresults⟩ := ih hrest next
      refine ⟨r :: rs, after, .cons hreads hmore, ?_⟩
      rw [List.map_cons, List.map_cons, ofValuesFrom, ofValue, Graph.value, hresult]
      exact congrArg (r.sanitized :: ·) hresults

/-- What accompanies a log record is made safe as the graph that it stands for is read. -/
theorem exists_reads_ofValues {g : Graph} (hg : g.Proper) {params : List Part}
    (hparams : ∀ p ∈ params, g.Holds p) :
    ∃ rs after, ReadsItems g 0 [] params rs after ∧
      ofValues (params.map g.value) =
        if maxContext < unitCount (jsonChars (.list (rs.map Reading.sanitized))) then oversized
        else rs.map Reading.sanitized := by
  obtain ⟨rs, after, hreads, hresult⟩ := exists_reads_ofValuesFrom hg hparams []
  refine ⟨rs, after, hreads, ?_⟩
  unfold ofValues
  rw [hresult]

end Log

end AlertRelay
