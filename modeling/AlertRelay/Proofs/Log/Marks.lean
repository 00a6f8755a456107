import AlertRelay.Proofs.Log.Credentials
import AlertRelay.Proofs.Log.Meetings
import Mathlib.Logic.Relation

/-!
When a list or record is only named.

A list or record that was met before is named, whether or not it stands inside itself: what was
written is never taken back (`named_iff_met_before`).
-/

namespace AlertRelay

namespace Graph

/-- The parts of a container. -/
def Node.parts : Node → List Part
  | .list items => items
  | .record fields => fields.map (·.2)
  | .error _ fields => fields.map (·.2)

/-- Whether a container has another one among its parts. -/
def Edge (g : Graph) (place other : Nat) : Prop :=
  ∃ node, g.nodes[place]? = some node ∧ .node other ∈ node.parts

/-- Whether no container can be reached from its own parts. -/
def Acyclic (g : Graph) : Prop :=
  ∀ place, ¬ Relation.TransGen g.Edge place place

/-- A graph is acyclic if all containers in a container stand at places before it. -/
theorem acyclic_of_lt {g : Graph} (h : ∀ (place : Nat) (node : Node), g.nodes[place]? = some node →
    ∀ other, .node other ∈ node.parts → other < place) : g.Acyclic := by
  have hreach {place other : Nat} (hpath : Relation.TransGen g.Edge place other) :
      other < place := by
    induction hpath with
    | single hedge =>
        obtain ⟨node, hnode, hpart⟩ := hedge
        exact h _ node hnode _ hpart
    | tail _ hedge ih =>
        obtain ⟨node, hnode, hpart⟩ := hedge
        exact (h _ node hnode _ hpart).trans ih
  exact fun place hpath => absurd (hreach hpath) (Nat.lt_irrefl place)

/-- Whether a part is not the text that stands for a list or record that is only named. -/
def Part.IsUnmarked (p : Part) : Prop :=
  p ≠ .simple (.text "[Circular]")

/-- Whether that text does not stand in a graph by itself. -/
def Unmarked (g : Graph) : Prop :=
  ∀ (place : Nat) (node : Node), g.nodes[place]? = some node → ∀ p ∈ node.parts, p.IsUnmarked

end Graph

namespace Log

open AlertRelay.Text AlertRelay.Graph Sanitized

/-- A text stands somewhere in what is logged. -/
inductive Sanitized.Mentions (t : LogText) : Sanitized → Prop
  | text : Mentions t (.text t)
  | item {items : List Sanitized} {s : Sanitized} (hs : s ∈ items) (h : Mentions t s) :
      Mentions t (.list items)
  | field {inherited : List String} {fields : List (String × Sanitized)} {k : String}
      {s : Sanitized} (hs : (k, s) ∈ fields) (h : Mentions t s) :
      Mentions t (.record inherited fields)

/-- The text that stands for a list or record that is only named. -/
def circularText : LogText := .whole "[Circular]".toList

/-- A text in which no mark stands is what it was before credentials were removed. -/
theorem eq_of_redact {cs out : List Char} (h : redact cs = out)
    (hmark : ∀ k : Credential, ¬ k.mark <:+: out) : cs = out := by
  have hstep (k : Credential) {cs : List Char} (h : redactKind k cs = out) : cs = out := by
    rcases (redactKind_redacted k cs).eq_or_mark_part with heq | hpart
    · exact heq.symm.trans h
    · rw [h] at hpart
      exact absurd hpart (hmark k)
  exact hstep .slackToken (hstep .appToken (hstep .bearer h))

theorem eq_of_ofText_circularText {s : String} (h : LogText.ofText s = circularText) :
    s = "[Circular]" := by
  have hmark (k : Credential) : ¬ k.mark <:+: "[Circular]".toList := by
    intro hpart
    have hletter : 'R' ∈ k.mark := by cases k <;> decide
    exact absurd (hpart.mem hletter) (by decide)
  simp only [LogText.ofText] at h
  split at h
  · exact String.toList_inj.mp (eq_of_redact (LogText.whole.inj h) hmark)
  · cases h

theorem toString_ne_circular (n : Int) : (toString n).toList ≠ "[Circular]".toList := by
  intro h
  have hbracket : '[' ∈ (toString n).toList := by
    rw [h]
    decide
  have hdigits (m : Nat) : '[' ∉ (toString m).toList := by
    intro hmem
    have htext : (toString m).toList = Nat.toDigits 10 m := String.toList_ofList
    rw [htext] at hmem
    exact absurd (Nat.isDigit_of_mem_toDigits (by decide) (by decide) hmem) (by decide)
  cases n with
  | ofNat m => exact hdigits m hbracket
  | negSucc m =>
      have htext : (toString (Int.negSucc m)).toList = '-' :: (toString (m + 1)).toList := by
        change ("-" ++ toString (m + 1)).toList = _
        rw [String.toList_append]
        rfl
      rw [htext] at hbracket
      rcases List.mem_cons.mp hbracket with h | h
      · exact absurd h (by decide)
      · exact hdigits (m + 1) h

theorem Sanitized.Mentions.eq {t t' : LogText} (h : Mentions t (.text t')) : t' = t := by
  cases h
  rfl

/-- A value without parts is logged with the mark only if it is the text of the mark. -/
theorem not_mentions_leaf {v : Value} (hleaf : v.isLeaf = true)
    (hmark : (Part.simple v).IsUnmarked) :
    ¬ Mentions circularText (Reading.leaf v).sanitized := by
  intro h
  cases v with
  | undefined => cases h
  | null => cases h
  | bool b => cases h
  | number n => cases h
  | bigint n => exact toString_ne_circular n (LogText.whole.inj h.eq)
  | text s =>
      have hs := eq_of_ofText_circularText h.eq
      exact hmark (congrArg (fun s => Part.simple (.text s)) hs)
  | date ms =>
      cases h with
      | field hs => exact absurd hs List.not_mem_nil
  | list => cases hleaf
  | record => cases hleaf
  | error => cases hleaf
  | again => cases hleaf

/-- The entries of an error are texts of its own. -/
theorem not_mentions_ownEntry {kind : ErrorClass} {fields : List (String × Part)} {k : String}
    {v : Sanitized} (hmark : ∀ p ∈ (Node.error kind fields).parts, p.IsUnmarked)
    (h : OwnEntry kind fields k v) : ¬ Mentions circularText v := by
  have hfield {k s : String} (hget : Assoc.get? k fields = some (.simple (.text s))) :
      s ≠ "[Circular]" := by
    rintro rfl
    exact hmark _ (List.mem_map_of_mem (Assoc.mem_of_get? hget)) rfl
  intro hmentions
  cases h with
  | unnamed _ =>
      have hname := LogText.whole.inj hmentions.eq
      cases kind <;> exact absurd hname (by decide)
  | name hget => exact hfield hget (String.toList_inj.mp (LogText.whole.inj hmentions.eq))
  | wordless _ => exact absurd (LogText.whole.inj hmentions.eq) (by decide)
  | message hget => exact hfield hget (eq_of_ofText_circularText hmentions.eq)
  | code hget => exact hfield hget (String.toList_inj.mp (LogText.whole.inj hmentions.eq))
  | stack hget => exact hfield hget (eq_of_ofText_circularText hmentions.eq)

theorem not_mentions_omission (total : Nat) : ¬ Mentions circularText (omission total).2 := by
  intro h
  have htext := LogText.whole.inj h.eq
  rw [String.toList_append, String.toList_append] at htext
  exact absurd (List.cons.inj (List.cons.inj htext).2).1 (by decide)

/-- Whether a list or record is named somewhere in a row of meetings. -/
def AnyNamed (ms : List Meeting) : Prop :=
  ∃ m ∈ ms, m.named = true

/-- What a record mentions stands in one of the entries it is built from. -/
theorem exists_of_mentions_ofEntries {t : LogText} {entries : List (String × Sanitized)}
    (h : Mentions t (ofEntries [] [] entries)) : ∃ e ∈ entries, Mentions t e.2 := by
  obtain ⟨inherited, fields, hrecord⟩ := exists_ofEntries_eq [] [] entries
  rw [hrecord] at h
  cases h with
  | field hs h =>
      rcases mem_of_ofEntries hrecord _ hs with hs | hs
      · exact absurd hs List.not_mem_nil
      · exact ⟨_, hs, h⟩

mutual

/-- Where the mark stands, a list or record was named. -/
theorem Reads.anyNamed {g : Graph} (hg : g.Proper) (hmarks : g.Unmarked) {depth : Nat}
    {seen after : List Nat} {p : Part} {r : Reading} (h : Reads g depth seen p r after)
    (hp : g.Holds p) (hmark : p.IsUnmarked)
    (hmentions : Mentions circularText r.sanitized) : AnyNamed r.meetings := by
  match h with
  | .leaf .. => exact absurd hmentions (not_mentions_leaf hp hmark)
  | .node hnode h => exact h.anyNamed hg hmarks (hg _ _ hnode) (hmarks _ _ hnode) hmentions

theorem ReadsNode.anyNamed {g : Graph} (hg : g.Proper) (hmarks : g.Unmarked) {depth : Nat}
    {seen after : List Nat} {place : Nat} {node : Node} {r : Reading}
    (h : ReadsNode g depth seen place node r after) (hproper : node.Proper g)
    (hmark : ∀ p ∈ node.parts, p.IsUnmarked) (hmentions : Mentions circularText r.sanitized) :
    AnyNamed r.meetings := by
  match h with
  | .named .. => exact ⟨_, List.mem_singleton_self _, rfl⟩
  | .list _ h =>
      cases hmentions with
      | item hs hmentions =>
          obtain ⟨m, hm, hnamed⟩ := h.anyNamed hg hmarks
            (fun p hp => hproper p (List.mem_of_mem_take hp))
            (fun p hp => hmark p (List.mem_of_mem_take hp)) hs hmentions
          exact ⟨m, List.mem_cons_of_mem _ hm, hnamed⟩
  | .record _ h =>
      obtain ⟨e, he, hmentions⟩ := exists_of_mentions_ofEntries hmentions
      rcases List.mem_append.mp he with he | he
      · obtain ⟨m, hm, hnamed⟩ := h.anyNamed hg hmarks
          (fun f hf => hproper.2 f (mem_of_mem_take_listed hf))
          (fun f hf => hmark f.2 (List.mem_map_of_mem (mem_of_mem_take_listed hf))) he hmentions
        exact ⟨m, List.mem_cons_of_mem _ hm, hnamed⟩
      · split at he
        · cases List.mem_singleton.mp he
          exact absurd hmentions (not_mentions_omission _)
        · exact absurd he List.not_mem_nil
  | .error _ _ _ _ hcause =>
      cases hmentions with
      | field hs hmentions =>
          exact absurd hmentions (not_mentions_ownEntry hmark (mem_ownEntries hproper hs))
  | .deep _ _ _ hcause _ =>
      cases hmentions with
      | field hs hmentions =>
          rcases List.mem_append.mp hs with hs | hs
          · exact absurd hmentions (not_mentions_ownEntry hmark (mem_ownEntries hproper hs))
          · cases List.mem_singleton.mp hs
            exact absurd (LogText.whole.inj hmentions.eq) (by decide)
  | .caused _ _ hcause _ h =>
      cases hmentions with
      | field hs hmentions =>
          rcases List.mem_append.mp hs with hs | hs
          · exact absurd hmentions (not_mentions_ownEntry hmark (mem_ownEntries hproper hs))
          · cases List.mem_singleton.mp hs
            have hmem := Assoc.mem_of_get? (get?_of_causeOf? hcause).1
            exact h.anyNamed hg hmarks (hproper.1 _ hmem) (hmark _ (List.mem_map_of_mem hmem))
              hmentions

theorem ReadsItems.anyNamed {g : Graph} (hg : g.Proper) (hmarks : g.Unmarked) {depth : Nat}
    {seen after : List Nat} {items : List Part} {rs : List Reading}
    (h : ReadsItems g depth seen items rs after)
    (hheld : ∀ p ∈ items, g.Holds p) (hmark : ∀ p ∈ items, p.IsUnmarked) {s : Sanitized}
    (hs : s ∈ Reading.sanitizedItems rs) (hmentions : Mentions circularText s) :
    AnyNamed (Reading.meetingsOfItems rs) := by
  match h with
  | .nil .. => exact absurd hs List.not_mem_nil
  | .cons hfirst h =>
      obtain ⟨hp, hheld⟩ := List.forall_mem_cons.mp hheld
      obtain ⟨hpmark, hmark⟩ := List.forall_mem_cons.mp hmark
      rcases List.mem_cons.mp hs with rfl | hs
      · obtain ⟨m, hm, hnamed⟩ := hfirst.anyNamed hg hmarks hp hpmark hmentions
        exact ⟨m, List.mem_append_left _ hm, hnamed⟩
      · obtain ⟨m, hm, hnamed⟩ := h.anyNamed hg hmarks hheld hmark hs hmentions
        exact ⟨m, List.mem_append_right _ hm, hnamed⟩

theorem ReadsFields.anyNamed {g : Graph} (hg : g.Proper) (hmarks : g.Unmarked) {depth : Nat}
    {seen after : List Nat} {fields : List (String × Part)} {entries : List (String × Reading)}
    (h : ReadsFields g depth seen fields entries after) (hheld : ∀ f ∈ fields, g.Holds f.2)
    (hmark : ∀ f ∈ fields, f.2.IsUnmarked) {e : String × Sanitized}
    (he : e ∈ Reading.sanitizedEntries entries) (hmentions : Mentions circularText e.2) :
    AnyNamed (Reading.meetingsOfEntries entries) := by
  match h with
  | .nil .. => exact absurd he List.not_mem_nil
  | .secret _ _ h =>
      obtain ⟨-, hheld⟩ := List.forall_mem_cons.mp hheld
      obtain ⟨-, hmark⟩ := List.forall_mem_cons.mp hmark
      rcases List.mem_cons.mp he with rfl | he
      · exact absurd (LogText.whole.inj hmentions.eq) (by decide)
      · exact h.anyNamed hg hmarks hheld hmark he hmentions
  | .cons _ hfirst h =>
      obtain ⟨hp, hheld⟩ := List.forall_mem_cons.mp hheld
      obtain ⟨hpmark, hmark⟩ := List.forall_mem_cons.mp hmark
      rcases List.mem_cons.mp he with rfl | he
      · obtain ⟨m, hm, hnamed⟩ := hfirst.anyNamed hg hmarks hp hpmark hmentions
        exact ⟨m, List.mem_append_left _ hm, hnamed⟩
      · obtain ⟨m, hm, hnamed⟩ := h.anyNamed hg hmarks hheld hmark he hmentions
        exact ⟨m, List.mem_append_right _ hm, hnamed⟩

end

theorem not_mentions_oversized : ∀ s ∈ oversized, ¬ Mentions circularText s := by
  intro s hs hmentions
  cases List.mem_singleton.mp hs
  cases hmentions with
  | field he hmentions =>
      cases List.mem_singleton.mp he
      have htext := LogText.whole.inj hmentions.eq
      rw [String.toList_append, String.toList_append] at htext
      exact absurd (List.cons.inj htext).1 (by decide)

/-- A list or record is named exactly where it was met before, inside itself or elsewhere.  So the
mark of a list or record that is only named does not stand in what is logged if none is met
twice. -/
theorem named_iff_met_before {g : Graph} (hg : g.Proper) (hmarks : g.Unmarked)
    {params : List Part} (hparams : ∀ p ∈ params, g.Holds p ∧ p.IsUnmarked) :
    ∃ rs after, ReadsItems g 0 [] params rs after ∧
      ofValues (params.map g.value) =
        (if maxContext < unitCount (jsonChars (.list (rs.map Reading.sanitized))) then oversized
        else rs.map Reading.sanitized) ∧
      (∀ before m rest, rs.flatMap Reading.meetings = before ++ m :: rest →
        (m.named = true ↔ m.place ∈ placesOf before)) ∧
      ((placesOf (rs.flatMap Reading.meetings)).Nodup →
        ∀ s ∈ ofValues (params.map g.value), ¬ Mentions circularText s) := by
  obtain ⟨rs, after, hreads, hresult⟩ :=
    exists_reads_ofValues hg fun p hp => (hparams p hp).1
  have hnamed : ∀ before m rest, rs.flatMap Reading.meetings = before ++ m :: rest →
      (m.named = true ↔ m.place ∈ placesOf before) := by
    intro before m rest hsplit
    have hlawful := hreads.meets.lawful
    rw [Reading.meetingsOfItems_eq_flatMap, hsplit] at hlawful
    exact hlawful.named_iff.trans (or_iff_right List.not_mem_nil)
  refine ⟨rs, after, hreads, hresult, hnamed, ?_⟩
  intro hnodup s hs hmentions
  rw [hresult] at hs
  split at hs
  · exact not_mentions_oversized s hs hmentions
  · rw [← Reading.sanitizedItems_eq_map] at hs
    obtain ⟨m, hm, hmnamed⟩ := hreads.anyNamed hg hmarks (fun p hp => (hparams p hp).1)
      (fun p hp => (hparams p hp).2) hs hmentions
    rw [Reading.meetingsOfItems_eq_flatMap] at hm
    obtain ⟨before, rest, hsplit⟩ := List.append_of_mem hm
    have hbefore := (hnamed before m rest hsplit).mp hmnamed
    rw [hsplit, placesOf, List.map_append, List.nodup_append] at hnodup
    exact hnodup.2.2 m.place hbefore m.place List.mem_cons_self rfl

/-- Two options that share one record. -/
def sharedOptions : Graph :=
  ⟨#[.record [("k", .simple (.bool true))], .record [("x", .node 0), ("y", .node 0)]]⟩

theorem sharedOptions_nodes {P : Nat → Node → Prop}
    (hoption : P 0 (.record [("k", .simple (.bool true))]))
    (hboth : P 1 (.record [("x", .node 0), ("y", .node 0)])) (place : Nat) (node : Node)
    (hnode : sharedOptions.nodes[place]? = some node) : P place node := by
  match place, hnode with
  | 0, hnode => exact Option.some.inj hnode ▸ hoption
  | 1, hnode => exact Option.some.inj hnode ▸ hboth

theorem sharedOptions_proper : sharedOptions.Proper :=
  sharedOptions_nodes (by simp [Node.Proper, Holds, Value.isLeaf])
    (by simp [Node.Proper, Holds, sharedOptions])

theorem sharedOptions_unmarked : sharedOptions.Unmarked :=
  sharedOptions_nodes (by simp [Node.parts, Part.IsUnmarked])
    (by simp [Node.parts, Part.IsUnmarked])

theorem sharedOptions_acyclic : sharedOptions.Acyclic :=
  acyclic_of_lt (sharedOptions_nodes (by simp [Node.parts]) (by simp [Node.parts]))

theorem sharedOptions_logged : ofValues ([.node 1].map sharedOptions.value) =
    [.record [] [("x", .record [] [("k", .bool true)]), ("y", circularMark)]] :=
  rfl

/-- One option by itself is written out. -/
theorem option_not_named :
    sharedOptions.Proper ∧ sharedOptions.Unmarked ∧
      (∀ p ∈ [Part.node 0], sharedOptions.Holds p ∧ p.IsUnmarked) ∧
      ∀ s ∈ ofValues ([.node 0].map sharedOptions.value), ¬ Mentions circularText s := by
  have hparams : ∀ p ∈ [Part.node 0], sharedOptions.Holds p ∧ p.IsUnmarked := by
    simp [Holds, sharedOptions, Part.IsUnmarked]
  have hreading : ReadsItems sharedOptions 0 [] [.node 0]
      [.record 0 [("k", .leaf (.bool true))] 1] [0] :=
    .cons (.node rfl (.record List.not_mem_nil
      (.cons (by decide +kernel) (.leaf ..) (.nil ..)))) (.nil ..)
  obtain ⟨rs, after, hreads, -, -, hmark⟩ :=
    named_iff_met_before sharedOptions_proper sharedOptions_unmarked hparams
  obtain ⟨rfl, -⟩ := hreads.unique hreading
  exact ⟨sharedOptions_proper, sharedOptions_unmarked, hparams, hmark (List.nodup_singleton 0)⟩

/-- A record that stands twice in a graph without cycles is named in the second place. -/
theorem named_without_cycle : ¬ ∀ (g : Graph) (params : List Part), g.Proper → g.Acyclic →
    g.Unmarked → (∀ p ∈ params, g.Holds p ∧ p.IsUnmarked) →
    ∀ s ∈ ofValues (params.map g.value), ¬ Mentions circularText s := by
  intro hclaim
  refine hclaim sharedOptions [.node 1] sharedOptions_proper sharedOptions_acyclic
    sharedOptions_unmarked ?_ _ (sharedOptions_logged ▸ List.mem_singleton_self _) ?_
  · simp [Holds, sharedOptions, Part.IsUnmarked]
  · have hmark : Mentions circularText circularMark := .text
    exact .field (List.mem_cons_of_mem _ List.mem_cons_self) hmark

end Log

end AlertRelay
