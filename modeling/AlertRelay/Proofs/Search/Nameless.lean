import AlertRelay.Proofs.Lookup.Classification
import AlertRelay.Proofs.Search.Namesakes
import Mathlib.Data.List.TakeWhile

/-!
Look-ups of no name.

Of a name that has nothing but marks nothing is left to search for.  The search is carried out all
the same, and takes everything that is named, or shown, by the empty text for what it looks for.
Main statement: the resolution of such a name leads somewhere exactly if its fetches showed somebody
without a name (`finds_iff_nameless`).
-/

namespace AlertRelay.Channel

open Program

/-- Whether a name has nothing but marks. -/
def OnlyMarks (name : String) : Prop :=
  ∀ c ∈ name.toList, c = '#' ∨ c = '@'

instance (name : String) : Decidable (OnlyMarks name) :=
  decidable_of_iff (name.toList.all (fun c => decide (c = '#' ∨ c = '@')) = true)
    (by simp only [List.all_eq_true, decide_eq_true_eq, OnlyMarks])

theorem bareName_of_onlyMarks {name : String} (h : OnlyMarks name) : bareName name = "" := by
  have hnone : (name.toList.dropWhile fun c => c == '#' || c == '@') = [] := by
    apply List.dropWhile_eq_nil_iff.mpr
    intro c hc
    rcases h c hc with rfl | rfl <;> rfl
  rw [bareName, hnone]

/-- Only the empty name is the empty name in lower case. -/
theorem Item.isNamed_empty {item : Item} : item.isNamed "" = true ↔ item.name = "" := by
  have hlower (s : String) : Text.lower s = "" ↔ s = "" := by
    constructor
    · intro h
      have hnone : Text.lowerFrom [] s.toList = [] := by
        rw [← String.toList_ofList (l := Text.lowerFrom [] s.toList)]
        exact congrArg String.toList h
      cases hs : s.toList with
      | nil => exact String.toList_eq_nil_iff.mp hs
      | cons c rest =>
          rw [hs, Text.lowerFrom] at hnone
          have hmapped := (List.append_eq_nil_iff.mp hnone).1
          split_ifs at hmapped
    · rintro rfl
      rfl
  rw [isNamed, beq_iff_eq, (hlower "").mpr rfl, hlower]

/-- Whether a search found somebody, or several people who go by the name. -/
def Outcome.Finds (r : Except Failure Outcome) : Prop :=
  (∃ kind id, r = .ok (.found kind id)) ∨ ∃ why, r = .error why ∧ why.duplicate?.isSome = true

/-- Whether a resolution found somebody, or several people who go by the name. -/
def Finding.Finds (r : Except Failure Finding) : Prop :=
  (∃ finding id, r = .ok finding ∧ finding.id? = some id) ∨
    ∃ why, r = .error why ∧ why.duplicate?.isSome = true

theorem finds_resolved_iff (workspace : Integration.Workspace) (r : Except Failure Outcome) :
    Finding.Finds (resolved workspace r) ↔ Outcome.Finds r := by
  cases r with
  | error f =>
      constructor
      · rintro (⟨_, _, h, _⟩ | ⟨_, h, hduplicate⟩)
        · cases h
        · cases h
          exact .inr ⟨f, rfl, isSome_duplicate?_hinted workspace f ▸ hduplicate⟩
      · rintro (⟨_, _, h⟩ | ⟨_, h, hduplicate⟩)
        · cases h
        · cases h
          exact .inr ⟨_, rfl, (isSome_duplicate?_hinted workspace f).trans hduplicate⟩
  | ok o =>
      constructor
      · rintro (⟨_, id, h, hid⟩ | ⟨_, h, _⟩)
        · cases h
          cases o with
          | found kind id => exact .inl ⟨kind, id, rfl⟩
          | _ => cases hid
        · cases h
      · rintro (⟨kind, id, h⟩ | ⟨_, h, _⟩)
        · cases h
          exact .inl ⟨_, id, rfl, rfl⟩
        · cases h

theorem isApiError_of_duplicate {f : Failure} (h : f.duplicate?.isSome = true) :
    f.isApiError = false := by
  cases f with
  | foreign v =>
      simp only [Failure.duplicate?] at h
      split at h
      · rfl
      · cases h
  | duplicateName name domain => rfl
  | _ => cases h

/-- At the end of the users somebody is found if anybody was shown. -/
theorem Search.finds_listEnd {q : Query} {later : List Kind} {shown : List Item}
    {r : Except Failure Outcome} (h : (listEnd q .user later shown).result? = some r) :
    Outcome.Finds r ↔ shown ≠ [] := by
  unfold listEnd at h
  split at h
  · cases h
  · cases h
    refine ⟨?_, fun hne => absurd rfl hne⟩
    rintro (⟨_, _, hfound⟩ | ⟨_, herror, _⟩)
    · cases hfound
    · cases herror
  · cases h
    exact ⟨fun _ => List.cons_ne_nil _ _, fun _ => .inl ⟨_, _, rfl⟩⟩
  · cases h
    exact ⟨fun _ => List.cons_ne_nil _ _, fun _ => .inr ⟨_, rfl, rfl⟩⟩

/-- A search that has ended found somebody by the name, found somebody by the display name when the
users were exhausted, or met a failure that says so. -/
theorem Course.finds_iff {q : Query} {kind : Kind} {later : List Kind} {fs : List Fetch} {e : Next}
    {r : Except Failure Outcome} (h : Course (.more (Search.inList q kind later)) fs e)
    (hr : e.result? = some r) :
    Outcome.Finds r ↔ (∃ f ∈ fs, (f.hit? q).isSome = true) ∨
      (UsersExhausted q fs ∧ shownIn q fs ≠ []) ∨
      ∃ why, FetchFailed fs why ∧ why.duplicate?.isSome = true := by
  have hends := h.endsAs hr
  have hexhausted (husers : UsersExhausted q fs) : Outcome.Finds r ↔ shownIn q fs ≠ [] := by
    obtain ⟨later', hlist⟩ := h.result_of_exhausted hr husers
    exact Search.finds_listEnd hlist
  constructor
  · intro hfinds
    rcases hfinds with ⟨kind', id, hfound⟩ | ⟨why, herror, hduplicate⟩
    · rcases hends.foundLast kind' id hfound with ⟨before, f, p, item, hfs, _, hreply, hitem, _⟩ |
        ⟨_, husers⟩
      · refine .inl ⟨f, hfs ▸ List.mem_append_right before List.mem_cons_self, ?_⟩
        rw [Fetch.hit?_page hreply, hitem]
        rfl
      · exact .inr (.inl ⟨husers, (hexhausted husers).mp (.inl ⟨kind', id, hfound⟩)⟩)
    · rcases hends.errorLast why herror with hfailed | ⟨_, husers⟩
      · exact .inr (.inr ⟨why, hfailed, hduplicate⟩)
      · exact .inr (.inl ⟨husers, (hexhausted husers).mp (.inr ⟨why, herror, hduplicate⟩)⟩)
  · rintro (⟨f, hf, hhit⟩ | ⟨husers, hshown⟩ | ⟨why, ⟨before, f, hfs, hfailed⟩, hduplicate⟩)
    · obtain ⟨item, hitem⟩ := Option.isSome_iff_exists.mp hhit
      obtain ⟨before, after, hfs⟩ := List.append_of_mem hf
      cases hreply : f.reply with
      | failed why => cases (Fetch.hit?_failed hreply).symm.trans hitem
      | page p =>
          rw [Fetch.hit?_page hreply] at hitem
          exact .inl ⟨_, _, (hends.hitWins before f after p item hfs hreply hitem).2⟩
    · exact (hexhausted husers).mpr hshown
    · have hend := (hends.failureEnds before f [] why hfs hfailed).2
      rw [isApiError_of_duplicate hduplicate] at hend
      exact .inr ⟨why, hend, hduplicate⟩

/-- The items on the page that a fetch brought. -/
def Fetch.items (f : Fetch) : List Item :=
  match f.reply with
  | .page p => p.items
  | .failed _ => []

/-- Whether fetches brought an item without a name, or, all in all, a user whose display name is
empty. -/
def ShowsNameless (q : Query) (fs : List Fetch) : Prop :=
  (∃ f ∈ fs, ∃ item ∈ f.items, item.name = "") ∨
    (UsersExhausted q fs ∧ ∃ f ∈ fs, f.kind = .user ∧ ∃ item ∈ f.items, item.displayName = some "")

theorem Fetch.hit?_isSome_iff {q : Query} (hq : q.name = "") (f : Fetch) :
    (f.hit? q).isSome = true ↔ ∃ item ∈ f.items, item.name = "" := by
  unfold hit? items
  cases f.reply with
  | failed why => simp
  | page p => simp only [hq, List.find?_isSome, Item.isNamed_empty]

theorem shownIn_ne_nil_iff {q : Query} (hq : q.name = "") (fs : List Fetch) :
    shownIn q fs ≠ [] ↔
      ∃ f ∈ fs, f.kind = .user ∧ ∃ item ∈ f.items, item.displayName = some "" := by
  have hshown (f : Fetch) : f.shown q ≠ [] ↔
      f.kind = .user ∧ ∃ item ∈ f.items, item.displayName = some "" := by
    unfold Fetch.shown Fetch.items
    cases f.kind with
    | channel => simp
    | user => cases f.reply <;> simp [Item.isShownAs, hq]
  simp only [shownIn, ne_eq, List.flatMap_eq_nil_iff, not_forall]
  constructor
  · rintro ⟨f, hf, hne⟩
    exact ⟨f, hf, (hshown f).mp hne⟩
  · rintro ⟨f, hf, hsome⟩
    exact ⟨f, hf, (hshown f).mpr hsome⟩

/-- The resolution of a name in a workspace is the search for it, whose result is handed on. -/
theorem exists_course_of_resolveIn {config : Config} {organizationId name : String}
    {workspace : Integration.Workspace} {p : Patience} {w w' : World} {cues : List Cue}
    {r : Except Failure Finding}
    (h : (resolveIn config organizationId workspace name p).carried w cues =
      some (.ended r, w')) :
    ∃ fs e result, Handed cues fs ∧
      Course (Search.start (resolutionQuery config name workspace.metadata.accessToken p w.clock)
        Kind.searchOrder) fs e ∧
      e.result? = some result ∧ r = resolved workspace result := by
  have hbind : ((attempt (handedOn searchedStages (resolveName config name
      workspace.metadata.accessToken p))).bind (resolutionEnd organizationId workspace p)).carried w
        cues = some (.ended r, w') := h
  obtain ⟨before, after, first, v, rfl, hbefore, hafter⟩ := exists_ends_of_carried_bind hbind
  obtain ⟨result, rfl, hhanded⟩ := exists_end_of_carried_attempt hbefore
  obtain ⟨searching, worlds, _, _, rfl, hsearched⟩ := exists_end_of_carried_handedOn hhanded
  obtain ⟨fs, e, hfs, hcourse, hresult⟩ := exists_course_of_resolveName hsearched
  have hend : after = [] ∧ r = resolved workspace result := by
    cases result with
    | ok o =>
        obtain ⟨hnone, hthere⟩ := Stand.carried_ended hafter
        cases hthere
        exact ⟨hnone, rfl⟩
    | error f =>
        obtain ⟨hnone, hthere⟩ := Stand.carried_ended hafter
        cases hthere
        exact ⟨hnone, rfl⟩
  obtain ⟨rfl, rfl⟩ := hend
  rw [List.append_nil]
  exact ⟨fs, e, result, hfs.append_turns worlds, hcourse, hresult, rfl⟩

/-- The resolution of a name of nothing but marks finds somebody, or several people, exactly if
somebody without a name was shown to its search, or a failure of a fetch said so. -/
theorem finds_iff_nameless {config : Config} {organizationId name : String}
    {workspace : Integration.Workspace} {p : Patience} {w w' : World} {cues : List Cue}
    {r : Except Failure Finding} (hname : OnlyMarks name)
    (h : (resolveIn config organizationId workspace name p).carried w cues =
      some (.ended r, w')) :
    let q := resolutionQuery config name workspace.metadata.accessToken p w.clock
    ∃ fs e, Handed cues fs ∧ Course (Search.start q Kind.searchOrder) fs e ∧
      e.result?.map (resolved workspace) = some r ∧
      (Finding.Finds r ↔
        ShowsNameless q fs ∨ ∃ why, FetchFailed fs why ∧ why.duplicate?.isSome = true) := by
  intro q
  obtain ⟨fs, e, result, hhanded, hcourse, hresult, rfl⟩ := exists_course_of_resolveIn h
  have hq : q.name = "" := bareName_of_onlyMarks hname
  refine ⟨fs, e, hhanded, hcourse, by rw [hresult]; rfl, ?_⟩
  have hfinds := Course.finds_iff (q := q) hcourse hresult
  simp only [Fetch.hit?_isSome_iff hq, shownIn_ne_nil_iff hq] at hfinds
  rw [finds_resolved_iff, hfinds, ShowsNameless, or_assoc]

/-- The finding with which a resolution has ended. -/
def finding? : Stand Finding → Option Finding
  | .ended (.ok finding) => some finding
  | _ => none

theorem exists_end_of_finding? {here : Option (Stand Finding × World)} {finding : Finding}
    (h : here.bind (fun there => finding? there.1) = some finding) :
    ∃ w, here = some (.ended (.ok finding), w) := by
  obtain ⟨⟨st, w⟩, rfl, hfinding⟩ := Option.bind_eq_some_iff.mp h
  unfold finding? at hfinding
  split at hfinding
  · next hst =>
      cases hfinding
      exact ⟨w, by rw [← hst]⟩
  · cases hfinding

/-- A user in a list with a display name. -/
def shownAs (id displayName : String) : Value :=
  .ofFields [("id", .text id), ("name", .text id),
    ("profile", .ofFields [("display_name", .text displayName)])]

/-- No channels, and then some users; at last the turns in which the finding is handed on. -/
def userCues (users : List Value) : List Cue :=
  ⟨.reply (lastPage []), .blank 0⟩ :: Cue.turns [.blank 1, .blank 1, .blank 1] ++
    ⟨.reply (.answered (.ofFields [("ok", .bool true), ("members", .ofList users)])), .blank 2⟩ ::
    Cue.turns [.blank 3, .blank 3, .blank 3, .blank 4, .blank 4]

/-- Where everybody has a name, a name of two marks finds nobody. -/
theorem finds_nobody_among_named : OnlyMarks "#@" ∧
    ∃ fs, Handed (userCues [shownAs "U1" "Ann"]) fs ∧
      ¬ ShowsNameless (resolutionQuery hurried "#@" "t" .interactive 0) fs := by
  have hname : OnlyMarks "#@" := by decide
  have hfinding : ((resolveIn hurried "o1" acme "#@" .interactive).carried (.blank 0)
      (userCues [shownAs "U1" "Ann"])).bind (fun there => finding? there.1) =
        some ⟨.user, none, false⟩ := by decide +kernel
  obtain ⟨w, hends⟩ := exists_end_of_finding? hfinding
  obtain ⟨fs, e, hhanded, _, _, hfinds⟩ := finds_iff_nameless hname hends
  refine ⟨hname, fs, hhanded, fun hshows => ?_⟩
  rcases hfinds.mpr (.inl hshows) with ⟨_, _, hok, hid⟩ | ⟨_, herror, _⟩
  · cases hok
    cases hid
  · cases herror

/-- A mark alone finds a user who has no display name. -/
theorem finds_unnamed_user : OnlyMarks "#" ∧
    ∃ w r, (resolveIn hurried "o1" acme "#" .interactive).carried (.blank 0)
        (userCues [shownAs "U1" ""]) = some (.ended r, w) ∧
      r = .ok ⟨.user, some "U1", false⟩ ∧ Finding.Finds r := by
  have hfinding : ((resolveIn hurried "o1" acme "#" .interactive).carried (.blank 0)
      (userCues [shownAs "U1" ""])).bind (fun there => finding? there.1) =
        some ⟨.user, some "U1", false⟩ := by decide +kernel
  obtain ⟨w, hends⟩ := exists_end_of_finding? hfinding
  exact ⟨by decide, w, _, hends, rfl, .inl ⟨_, "U1", rfl, rfl⟩⟩

end AlertRelay.Channel
