import AlertRelay.Attachment.Actor

/-!
Identities of actors and their texts.

A text is read as an identity exactly if it is written for one that can be read back: not empty, and
without a character that ends a line (`ActorId.read?_eq_some_iff`).  What is read is written as the
same text again, and the value of an actor's entry is read as the actor's own identity, colons or
names of kinds in it or not (`ActorId.reads_what_is_written`).
-/

namespace AlertRelay.Attachment

open AlertRelay.Text

namespace ActorId

/-- A text with characters, none of which ends a line. -/
def OneLine (s : String) : Prop :=
  s ≠ "" ∧ ∀ c ∈ s.toList, isLineEnd c = false

/-- A line feed, a carriage return, and the separators of lines and of paragraphs. -/
def lineEnds : List Char := ['\n', '\r', '\u2028', '\u2029']

/-- How the texts of the identities of a kind begin. -/
def beginning : ActorKind → List Char
  | .user => "user:".toList
  | .team => "team:".toList

theorem oneLine_iff {s : String} : OneLine s ↔ s ≠ "" ∧ ∀ c ∈ lineEnds, c ∉ s.toList := by
  have hends : ∀ c, isLineEnd c = false ↔ c ∉ lineEnds := by
    intro c
    rw [← Bool.not_eq_true]
    apply not_congr
    simp only [isLineEnd, lineEnds, Bool.or_eq_true, beq_iff_eq, List.mem_cons, List.not_mem_nil,
      or_false, or_assoc]
  apply and_congr_right
  intro _
  constructor
  · intro hline c hc hmem
    exact (hends c).mp (hline c hmem) hc
  · intro hnone c hmem
    exact (hends c).mpr fun hc => hnone c hc hmem

theorem toList_text (a : ActorId) : a.text.toList = beginning a.kind ++ a.id.toList := by
  simp only [text, String.toList_append]
  cases a.kind <;> rfl

/-- Identities are told apart by their texts. -/
theorem eq_of_text_eq {a b : ActorId} (h : a.text = b.text) : a = b := by
  have hchars := congrArg String.toList h
  rw [toList_text, toList_text] at hchars
  obtain ⟨kind, id⟩ := a
  obtain ⟨kind', id'⟩ := b
  cases kind <;> cases kind' <;> simp [beginning] at hchars
  all_goals exact congrArg _ (String.toList_inj.mp hchars)

theorem oneLine_ofList {rest : List Char} :
    OneLine (String.ofList rest) ↔ ¬ (rest.isEmpty || rest.any isLineEnd) = true := by
  have hempty : String.ofList rest = "" ↔ rest = [] := by
    rw [← String.toList_inj, String.toList_ofList]
    rfl
  simp [OneLine, hempty]

theorem ofRest?_eq_some_iff {kind : ActorKind} {rest : List Char} {a : ActorId} :
    ofRest? kind rest = some a ↔ a = ⟨kind, String.ofList rest⟩ ∧ OneLine a.id := by
  unfold ofRest?
  constructor
  · intro h
    split at h
    · cases h
    · rename_i hline
      cases h
      exact ⟨rfl, oneLine_ofList.mpr hline⟩
  · rintro ⟨rfl, hline⟩
    rw [if_neg (oneLine_ofList.mp hline)]

/-- Exactly the texts of identities that stand on one line are read. -/
theorem read?_eq_some_iff {s : String} {a : ActorId} :
    read? s = some a ↔ a.text = s ∧ OneLine a.id := by
  have hrest {kind : ActorKind} {rest : List Char}
      (h : s.toList = beginning kind ++ rest) :
      ofRest? kind rest = some a ↔ a.text = s ∧ OneLine a.id := by
    have htext : (⟨kind, String.ofList rest⟩ : ActorId).text = s := by
      rw [← String.toList_inj, toList_text, String.toList_ofList, h]
    rw [ofRest?_eq_some_iff]
    refine and_congr_left fun _ => ⟨fun ha => ha ▸ htext, fun ha => ?_⟩
    exact eq_of_text_eq (ha.trans htext.symm)
  unfold read?
  cases huser : dropBeginning? "user:".toList s.toList with
  | some rest => exact hrest (dropBeginning?_eq_some_iff.mp huser)
  | none =>
      cases hteam : dropBeginning? "team:".toList s.toList with
      | some rest => exact hrest (dropBeginning?_eq_some_iff.mp hteam)
      | none =>
          simp only [reduceCtorEq, false_iff]
          rintro ⟨rfl, -⟩
          obtain ⟨kind, id⟩ := a
          cases kind with
          | user =>
              have hsome := dropBeginning?_eq_some_iff.mpr (toList_text ⟨.user, id⟩)
              cases huser.symm.trans hsome
          | team =>
              have hsome := dropBeginning?_eq_some_iff.mpr (toList_text ⟨.team, id⟩)
              cases hteam.symm.trans hsome

/-- Some identity is read from a text exactly if the name of a kind and a colon are at its front,
and the rest stands on one line. -/
theorem isSome_read?_iff {s : String} :
    (read? s).isSome ↔ ∃ id, OneLine id ∧ (s = "user:" ++ id ∨ s = "team:" ++ id) := by
  rw [Option.isSome_iff_exists]
  constructor
  · rintro ⟨⟨kind, id⟩, ha⟩
    obtain ⟨rfl, hline⟩ := read?_eq_some_iff.mp ha
    cases kind with
    | user => exact ⟨id, hline, Or.inl rfl⟩
    | team => exact ⟨id, hline, Or.inr rfl⟩
  · rintro ⟨id, hline, rfl | rfl⟩
    · exact ⟨⟨.user, id⟩, read?_eq_some_iff.mpr ⟨rfl, hline⟩⟩
    · exact ⟨⟨.team, id⟩, read?_eq_some_iff.mpr ⟨rfl, hline⟩⟩

/-- Some identity is read from a text exactly if the text is `user:` or `team:` and an identity that
is not empty and has no end of a line in it.  The identity that is read is written as the text, and
what is written for an identity of this kind is read as it; so are the values of the entries of
users and teams. -/
theorem reads_what_is_written :
    (∀ s : String, (read? s).isSome ↔
      ∃ id, (id ≠ "" ∧ ∀ c ∈ lineEnds, c ∉ id.toList) ∧ (s = "user:" ++ id ∨ s = "team:" ++ id)) ∧
    (∀ (s : String) (a : ActorId), read? s = some a ↔
      a.text = s ∧ a.id ≠ "" ∧ ∀ c ∈ lineEnds, c ∉ a.id.toList) ∧
    ∀ (kind : ActorKind) (id : String) (name : Value),
      read? (Actor.option ⟨kind, .text id, name⟩).value = some ⟨kind, id⟩ ↔
        id ≠ "" ∧ ∀ c ∈ lineEnds, c ∉ id.toList := by
  refine ⟨?_, ?_, ?_⟩
  · intro s
    simp only [isSome_read?_iff, oneLine_iff]
  · intro s a
    rw [read?_eq_some_iff, oneLine_iff]
  · intro kind id name
    have hvalue : (Actor.option ⟨kind, .text id, name⟩).value = (⟨kind, id⟩ : ActorId).text := rfl
    rw [hvalue, read?_eq_some_iff, oneLine_iff]
    exact and_iff_right rfl

end ActorId

end AlertRelay.Attachment
