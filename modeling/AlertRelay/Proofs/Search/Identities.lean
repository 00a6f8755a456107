import AlertRelay.Proofs.Search.Replies

/-!
Identities that searches lead to.

An item without an identity makes a page invalid, so nobody is remembered, and no search ends, with
an empty identity.  Every reply of Slack keeps it so, and therefore the identity that a resolved
name leads to is not empty (`identified_of_carried`).
-/

namespace AlertRelay.Channel

open Program

/-- An item that is read from a value has an identity. -/
theorem Item.id_ne_empty {v : Value} {item : Item} (h : Item.ofValue? v = some item) :
    item.id ≠ "" := by
  unfold ofValue? at h
  split at h
  · next fields id name displayName profile _ hid _ _ =>
      cases h
      intro hempty
      change id = "" at hempty
      unfold Schema.nonEmptyText at hid
      split at hid
      · next s =>
          split at hid
          · cases hid
          · next hne =>
              cases hid
              exact hne hempty
      · cases hid
  · cases h

/-- Every item on a page that was fetched has an identity. -/
theorem id_ne_empty_of_pageOf {kind : Kind} {reply : SlackReply} {page : Page}
    (h : pageOf kind reply = .ok page) : ∀ item ∈ page.items, item.id ≠ "" := by
  have hvalues {values : List Value} {items : List Item}
      (hread : values.mapM Item.ofValue? = some items) : ∀ item ∈ items, item.id ≠ "" := by
    induction values generalizing items with
    | nil =>
        cases hread
        intro item hitem
        cases hitem
    | cons v values ih =>
        rw [List.mapM_cons] at hread
        obtain ⟨first, hfirst, htail⟩ := Option.bind_eq_some_iff.mp hread
        obtain ⟨rest, hrest, hitems⟩ := Option.bind_eq_some_iff.mp htail
        cases hitems
        intro item hitem
        rcases List.mem_cons.mp hitem with rfl | hitem
        · exact Item.id_ne_empty hfirst
        · exact ih hrest item hitem
  unfold pageOf at h
  split at h
  · cases h
  · next answer _ =>
      unfold Page.ofAnswer at h
      split at h
      · cases h
      · split at h
        · next items hitems =>
            cases h
            exact hvalues hitems
        · cases h

/-- Whether a search that goes on remembers nobody without an identity, and one that ended has
found nobody without. -/
def Next.Identified : Next → Prop
  | .more s => s.candidate ≠ some ""
  | n => ∀ kind, n.result? ≠ some (.ok (.found kind ""))

namespace Search

theorem candidate_remember {s : Search} {item : Item} (hs : s.candidate ≠ some "")
    (hitem : item.id ≠ "") : (s.remember item).candidate ≠ some "" := by
  unfold remember
  by_cases hshown : s.matchesDisplayName item = true
  · rw [if_pos hshown]
    cases hcandidate : s.candidate with
    | none =>
        intro hsome
        exact hitem (Option.some.inj hsome)
    | some id =>
        rw [hcandidate] at hs
        exact hs
  · rw [if_neg hshown]
    exact hs

theorem candidate_read {s : Search} {items : List Item} (hs : s.candidate ≠ some "")
    (hitems : ∀ item ∈ items, item.id ≠ "") : (s.read items).candidate ≠ some "" := by
  induction items generalizing s with
  | nil => exact hs
  | cons item rest ih =>
      apply ih
      · exact candidate_remember hs (hitems item List.mem_cons_self)
      · intro other hother
        exact hitems other (List.mem_cons_of_mem item hother)

theorem identified_endOfList {s : Search} (hs : s.candidate ≠ some "") :
    s.endOfList.Identified := by
  unfold endOfList
  split
  · intro kind hresult
    cases hresult
  · split
    · next id hcandidate =>
        intro kind hresult
        cases hresult
        exact hs hcandidate
    · split
      · intro hnobody
        cases hnobody
      · intro kind hresult
        cases hresult

/-- Whatever Slack replies, nobody without an identity is remembered or found. -/
theorem identified_resume {s : Search} (hs : s.candidate ≠ some "") (reply : SlackReply)
    (time : Double) : (s.resume reply time).Identified := by
  unfold resume
  cases hpage : pageOf s.kind reply with
  | error f =>
      simp only [receive]
      split
      · intro kind hresult
        cases hresult
      · intro kind hresult
        cases hresult
  | ok page =>
      have hitems := id_ne_empty_of_pageOf hpage
      have hread := candidate_read hs hitems
      simp only [receive]
      rcases receivePage_cases s page time with
        ⟨item, hfind, heq⟩ | ⟨_, _, heq⟩ | ⟨cursor, _, _, _, heq⟩ | ⟨_, _, _, heq⟩
      · rw [heq]
        intro kind hresult
        have hid : item.id = "" := (Outcome.found.inj (Except.ok.inj (Option.some.inj hresult))).2
        exact hitems item (List.mem_of_find?_eq_some hfind) hid
      · rw [heq]
        intro kind hresult
        cases hresult
      · rw [heq]
        exact hread
      · rw [heq]
        exact identified_endOfList hread

end Search

/-- The identity that a resolved name leads to is not empty. -/
theorem identified_of_carried {config : Config} {name token : String} {p : Patience}
    {w w' : World} {cues : List Cue} {kind : Kind} {id : String}
    (h : (resolveName config name token p).carried w cues =
      some (.ended (.ok (.found kind id)), w')) : id ≠ "" := by
  have hstart (q : Query) : (Search.start q Kind.searchOrder).Identified := by
    intro hnobody
    cases hnobody
  obtain ⟨fs, e, hhanded, hcourse, hresult⟩ := exists_course_of_resolveName h
  have hidentified : e.Identified := hcourse.keeps_to_end
    (fun s reply time hs => Search.identified_resume hs reply time) (hstart _) hhanded.exists_reply
  rintro rfl
  cases e with
  | more s => cases hresult
  | _ => exact hidentified kind hresult

end AlertRelay.Channel
