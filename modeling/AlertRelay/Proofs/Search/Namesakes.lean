import AlertRelay.Proofs.Search.Ending
import AlertRelay.Proofs.Search.Paging

/-!
When a display name counts as ambiguous.

A search counts how often the list of users shows the wanted display name, and not whom it shows
under it.  `shownIn` lists what the fetches of a search show, as often as they show it.  A search
that ends has called the name ambiguous just if the users are exhausted and there is more than one
entry (`ambiguous_iff_shown_twice`); this tells people apart unless all the entries are one person,
whom Slack handed out several times (`repeatedUser_refused`).
-/

namespace AlertRelay.Channel

/-- The users that a fetch shows under the wanted display name, as often as it shows them. -/
def Fetch.shown (q : Query) (f : Fetch) : List Item :=
  match f.kind, f.reply with
  | .user, .page p => p.items.filter (Item.isShownAs q.name)
  | _, _ => []

/-- The users that fetches show under the wanted display name. -/
def shownIn (q : Query) (fs : List Fetch) : List Item :=
  fs.flatMap (Fetch.shown q)

theorem shownIn_append (q : Query) (fs gs : List Fetch) :
    shownIn q (fs ++ gs) = shownIn q fs ++ shownIn q gs := by
  simp only [shownIn, List.flatMap_append]

theorem Fetch.shown_page {s : Search} {f : Fetch} {p : Page} (hkind : f.kind = s.kind)
    (hreply : f.reply = .page p) :
    f.shown s.query = p.items.filter s.matchesDisplayName := by
  have hmatches (item : Item) : s.matchesDisplayName item =
      (s.kind == .user && item.isShownAs s.query.name) := rfl
  simp only [Fetch.shown, hkind, hreply]
  cases hs : s.kind with
  | channel =>
      symm
      apply List.filter_eq_nil_iff.mpr
      intro item _
      rw [hmatches, hs]
      exact Bool.false_ne_true
  | user =>
      apply List.filter_congr
      intro item _
      rw [hmatches, hs]
      rfl

namespace Search

/-- What is remembered when a search has read a page. -/
theorem Holds.read_page {s : Search} {seen : List Item} (hs : s.Holds seen) {f : Fetch}
    {p : Page} (hkind : f.kind = s.kind) (hreply : f.reply = .page p) :
    (s.read p.items).Holds (seen ++ f.shown s.query) := by
  rw [Fetch.shown_page hkind hreply]
  exact hs.read p.items

/-- A list that leads on to another one has shown nobody. -/
theorem Holds.nil_of_more {s s' : Search} {seen : List Item} (hs : s.Holds seen)
    (h : s.endOfList = .more s') : seen = [] := by
  rw [hs.endOfList] at h
  unfold listEnd at h
  split at h
  · rfl
  · cases h
  · cases h
  · cases h

/-- A search that goes on remembers what all its fetches have shown. -/
theorem Holds.receive {s s' : Search} {seen : List Item} (hs : s.Holds seen) {f : Fetch}
    (hkind : f.kind = s.kind) (h : s.receive f.reply f.time = .more s') :
    s'.Holds (seen ++ f.shown s.query) := by
  cases hreply : f.reply with
  | failed why =>
      rw [hreply] at h
      simp only [Search.receive] at h
      split at h <;> cases h
  | page p =>
      have hread := hs.read_page hkind hreply
      rw [hreply] at h
      rcases receivePage_cases s p f.time with
        ⟨_, _, heq⟩ | ⟨_, _, heq⟩ | ⟨cursor, _, _, _, heq⟩ | ⟨_, _, _, heq⟩
      · cases heq.symm.trans h
      · cases heq.symm.trans h
      · cases heq.symm.trans h
        exact hread
      · have hmore := heq.symm.trans h
        rw [hread.nil_of_more hmore]
        obtain ⟨kind, later, _, rfl⟩ := endOfList_more hmore
        exact inList_holds _ kind later

end Search

namespace Course

/-- Wherever a course stands, the search remembers what the fetches so far have shown. -/
theorem holds {s t : Search} {seen : List Item} {fs : List Fetch} (hs : s.Holds seen)
    (h : Course (.more s) fs (.more t)) : t.Holds (seen ++ shownIn s.query fs) := by
  induction fs generalizing s seen with
  | nil =>
      cases h.eq_of_nil
      rw [shownIn, List.flatMap_nil, List.append_nil]
      exact hs
  | cons f rest ih =>
      obtain ⟨s, hs', hrequest, h⟩ := h.eq_more
      cases hs'
      have hkind : f.kind = s.kind := congrArg Prod.fst hrequest
      -- From any other state no course leads on to one that waits for a page.
      cases hnext : s.receive f.reply f.time with
      | more s' =>
          rw [hnext] at h
          have hrest := ih (hs.receive hkind hnext) h
          rw [Search.receive_more_query hnext, List.append_assoc] at hrest
          exact hrest
      | ended o => rw [hnext] at h; cases rest <;> cases h
      | gaveUp o why => rw [hnext] at h; cases rest <;> cases h
      | failed why => rw [hnext] at h; cases rest <;> cases h

end Course

/-- A failure that a fetch ended with, and no judgement of the search. -/
def FetchFailed (fs : List Fetch) (why : Failure) : Prop :=
  ∃ before f, fs = before ++ [f] ∧ f.reply = .failed why

/-- The result of a search when its list of users is exhausted. -/
theorem Finale.result_of_exhausted {q : Query} {before : List Fetch} {last : Fetch} {s : Search}
    {r : Except Failure Outcome} (h : Finale q before last s r)
    (hs : s.Holds (shownIn q before)) (hexhausted : UsersExhausted q (before ++ [last])) :
    (Search.listEnd q .user s.later (shownIn q (before ++ [last]))).result? = some r := by
  obtain ⟨before', last', p, hfs, huser, ⟨hreply, hhit, hlate⟩, hnext, _⟩ := hexhausted
  obtain ⟨_, hlast⟩ := List.append_inj' hfs rfl
  obtain rfl : last = last' := (List.cons.inj hlast).1
  have hread : (s.read p.items).Holds (shownIn q (before ++ [last])) := by
    rw [shownIn_append, ← h.query_eq]
    rw [← h.query_eq] at hs
    have hlastShown : shownIn s.query [last] = last.shown s.query := List.flatMap_singleton _ _
    rw [hlastShown]
    exact hs.read_page h.kind_eq hreply
  have hend := hread.endOfList
  rw [Search.read_query, Search.read_kind, Search.read_later, h.query_eq, ← h.kind_eq, huser]
    at hend
  rcases h.cases_last with ⟨_, hfailed, _⟩ | ⟨_, hitem, _⟩ | ⟨_, _, _, hlate', _⟩ |
    ⟨p', ⟨hreply', _⟩, _, hresult⟩
  · cases hreply.symm.trans hfailed
  · cases hhit.symm.trans hitem
  · cases hlate.symm.trans hlate'
  · cases hreply.symm.trans hreply'
    rw [← hend]
    exact hresult

/-- A search that has exhausted the users calls a name ambiguous that it has met twice, and finds
the one whom it has met once. -/
theorem Course.result_of_exhausted {q : Query} {kind : Kind} {later : List Kind}
    {fs : List Fetch} {e : Next} {r : Except Failure Outcome}
    (h : Course (.more (Search.inList q kind later)) fs e) (hr : e.result? = some r)
    (hexhausted : UsersExhausted q fs) :
    ∃ later', (Search.listEnd q .user later' (shownIn q fs)).result? = some r := by
  have hsplit : ∃ before last, fs = before ++ [last] := by
    obtain ⟨before, last, _, hfs, _⟩ := hexhausted
    exact ⟨before, last, hfs⟩
  obtain ⟨before, last, rfl⟩ := hsplit
  obtain ⟨t, hbefore, hrequest, hlast⟩ := h.split
  rw [← hlast.eq_of_nil] at hr
  have husers : t.OnlyUsers :=
    hbefore.keeps (fun u u' f hu hnext => hu.receive hnext) (Search.inList_onlyUsers q kind later)
  have hfinale : Finale q before last t r :=
    ⟨hbefore.query_eq, husers, congrArg Prod.fst hrequest, h.passes_before, hr⟩
  have hholds := hbefore.holds (Search.inList_holds q kind later)
  exact ⟨t.later, hfinale.result_of_exhausted hholds hexhausted⟩

/-- At the end of the users a result says whom their list has shown: several entries make the name
ambiguous, and a single one is the person who is found. -/
theorem Search.result_listEnd {q : Query} {later : List Kind} {shown : List Item}
    {r : Except Failure Outcome} (h : (listEnd q .user later shown).result? = some r) :
    (r = .error (.duplicateName q.name none) ↔ 2 ≤ shown.length) ∧
      ∀ u, shown = [u] → r = .ok (.found .user u.id) := by
  unfold listEnd at h
  split at h
  · cases h
  · cases h
    refine ⟨⟨?_, ?_⟩, ?_⟩
    · intro herror
      cases herror
    · intro hlength
      exact absurd hlength (by decide)
    · intro u hsingle
      cases hsingle
  · cases h
    refine ⟨⟨?_, ?_⟩, ?_⟩
    · intro herror
      cases herror
    · intro hlength
      exact absurd hlength (by simp)
    · intro u hsingle
      cases hsingle
      rfl
  · cases h
    refine ⟨⟨?_, ?_⟩, ?_⟩
    · intro _
      simp
    · intro _
      rfl
    · intro u hsingle
      cases hsingle

/-- A search makes a display name ambiguous only if different people are shown under it, and finds
the one person who is, however often. -/
structure PeopleToldApart (q : Query) (fs : List Fetch) (r : Except Failure Outcome) : Prop where
  ambiguous : r = .error (.duplicateName q.name none) →
    FetchFailed fs (.duplicateName q.name none) ∨
      ∃ u ∈ shownIn q fs, ∃ v ∈ shownIn q fs, u.id ≠ v.id
  onePerson : UsersExhausted q fs → ∀ u ∈ shownIn q fs, (∀ v ∈ shownIn q fs, v.id = u.id) →
    r = .ok (.found .user u.id)

/-- Whether the users are exhausted and one person was shown more than once, and nobody else. -/
def OnePersonRepeated (q : Query) (fs : List Fetch) : Prop :=
  UsersExhausted q fs ∧ 2 ≤ (shownIn q fs).length ∧
    ∃ id, ∀ u ∈ shownIn q fs, u.id = id

/-- People are told apart by what was shown unless it was one of them, more than once. -/
theorem peopleToldApart_iff {q : Query} {fs : List Fetch} {r : Except Failure Outcome}
    (hduplicate : r = .error (.duplicateName q.name none) ↔
      FetchFailed fs (.duplicateName q.name none) ∨
        UsersExhausted q fs ∧ 2 ≤ (shownIn q fs).length)
    (hsingle : UsersExhausted q fs → ∀ u, shownIn q fs = [u] → r = .ok (.found .user u.id)) :
    PeopleToldApart q fs r ↔ ¬ OnePersonRepeated q fs := by
  constructor
  · rintro happart ⟨hexhausted, htwice, id, hsame⟩
    obtain ⟨u, hu⟩ : ∃ u, u ∈ shownIn q fs :=
      List.exists_mem_of_length_pos (Nat.lt_of_lt_of_le Nat.zero_lt_two htwice)
    have hfound := happart.onePerson hexhausted u hu
      (fun v hv => (hsame v hv).trans (hsame u hu).symm)
    have herror := hduplicate.mpr (Or.inr ⟨hexhausted, htwice⟩)
    cases hfound.symm.trans herror
  · intro hnot
    constructor
    · intro herror
      rcases hduplicate.mp herror with hfailed | ⟨hexhausted, htwice⟩
      · exact Or.inl hfailed
      · by_cases hother : ∃ u ∈ shownIn q fs, ∃ v ∈ shownIn q fs, u.id ≠ v.id
        · exact Or.inr hother
        · obtain ⟨u, hu⟩ : ∃ u, u ∈ shownIn q fs :=
            List.exists_mem_of_length_pos (Nat.lt_of_lt_of_le Nat.zero_lt_two htwice)
          refine absurd ⟨hexhausted, htwice, u.id, ?_⟩ hnot
          intro v hv
          by_cases hsame : v.id = u.id
          · exact hsame
          · exact absurd ⟨v, hv, u, hu, hsame⟩ hother
    · intro hexhausted u hu hsame
      have honce : ¬ 2 ≤ (shownIn q fs).length := by
        intro htwice
        exact hnot ⟨hexhausted, htwice, u.id, hsame⟩
      apply hsingle hexhausted
      cases hshown : shownIn q fs with
      | nil =>
          rw [hshown] at hu
          cases hu
      | cons v rest =>
          rw [hshown] at hu honce
          cases rest with
          | nil => rw [List.mem_singleton.mp hu]
          | cons w rest => exact absurd (by simp) honce

/-- Whenever a search ends, it has called the display name ambiguous just if a fetch did, or if the
users are exhausted and were shown under it more than once; this tells people apart unless one
person was shown more than once, and nobody else. -/
theorem ambiguous_iff_shown_twice {σ : Type} (source : Source σ) (kinds : List Kind)
    (pages : Nat) (state : σ) (q : Query) {r : Except Failure Outcome}
    (hend : (resolve source kinds pages state q).result = some r) :
    let fs := Run.fetches source pages state (Search.start q kinds)
    (r = .error (.duplicateName q.name none) ↔ FetchFailed fs (.duplicateName q.name none) ∨
        UsersExhausted q fs ∧ 2 ≤ (shownIn q fs).length) ∧
      (PeopleToldApart q fs r ↔ ¬ OnePersonRepeated q fs) := by
  intro fs
  have hends : EndsAs q kinds fs r := Run.fetches_endsAs source kinds pages state q hend
  obtain ⟨e, hcourse, hresult⟩ := Run.course_fetches source pages state (Search.start q kinds)
  have hr : e.result? = some r := hresult.symm.trans hend
  have hexhausted (h : UsersExhausted q fs) :
      (r = .error (.duplicateName q.name none) ↔ 2 ≤ (shownIn q fs).length) ∧
        ∀ u, shownIn q fs = [u] → r = .ok (.found .user u.id) := by
    cases kinds with
    | nil =>
        obtain ⟨before, last, _, hfs, _⟩ := h
        have hnone : fs = [] := hends.walks
        rw [hnone] at hfs
        exact absurd hfs.symm (List.append_ne_nil_of_right_ne_nil before (List.cons_ne_nil _ _))
    | cons kind later =>
        obtain ⟨_, hlist⟩ := hcourse.result_of_exhausted hr h
        exact Search.result_listEnd hlist
  have hduplicate : r = .error (.duplicateName q.name none) ↔
      FetchFailed fs (.duplicateName q.name none) ∨
        UsersExhausted q fs ∧ 2 ≤ (shownIn q fs).length := by
    constructor
    · intro herror
      rcases hends.errorLast _ herror with hfailed | ⟨_, husers⟩
      · exact Or.inl hfailed
      · exact Or.inr ⟨husers, (hexhausted husers).1.mp herror⟩
    · rintro (⟨before, f, hfs, hfailed⟩ | ⟨husers, htwice⟩)
      · exact (hends.failureEnds before f [] _ hfs hfailed).2
      · exact (hexhausted husers).1.mpr htwice
  exact ⟨hduplicate, peopleToldApart_iff hduplicate fun h => (hexhausted h).2⟩

/-- The display name that a run called ambiguous. -/
def Run.ambiguousName? (run : Run) : Option String :=
  match run.result with
  | some (.error (.duplicateName name none)) => some name
  | _ => none

theorem Run.result_of_ambiguousName? {run : Run} {name : String}
    (h : run.ambiguousName? = some name) :
    run.result = some (.error (.duplicateName name none)) := by
  unfold Run.ambiguousName? at h
  split at h
  · next hresult =>
      cases h
      exact hresult
  · cases h

/-- Slack hands out one user, shown as "Al", on two pages. -/
def repeatedReplies : List (Reply × Double) :=
  [(.page ⟨[], none⟩, 1),
    (.page ⟨[⟨"U1", "alice", some "Al", []⟩], some "u1"⟩, 2),
    (.page ⟨[⟨"U1", "alice", some "Al", []⟩], none⟩, 3)]

/-- All that is fetched when one user is handed out on two pages. -/
def repeatedFetches : List Fetch :=
  Run.fetches Source.prepared 9 repeatedReplies
    (Search.start ⟨"Al", 5, "token"⟩ Kind.searchOrder)

theorem ambiguous_repeated :
    (resolve Source.prepared Kind.searchOrder 9 repeatedReplies ⟨"Al", 5, "token"⟩).result =
        some (.error (.duplicateName "Al" none)) ∧
      (FetchFailed repeatedFetches (.duplicateName "Al" none) ∨
        UsersExhausted ⟨"Al", 5, "token"⟩ repeatedFetches ∧
          2 ≤ (shownIn ⟨"Al", 5, "token"⟩ repeatedFetches).length) ∧
      (PeopleToldApart ⟨"Al", 5, "token"⟩ repeatedFetches (.error (.duplicateName "Al" none)) ↔
        ¬ OnePersonRepeated ⟨"Al", 5, "token"⟩ repeatedFetches) := by
  have hend : (resolve Source.prepared Kind.searchOrder 9 repeatedReplies
      ⟨"Al", 5, "token"⟩).result = some (.error (.duplicateName "Al" none)) := by
    apply Run.result_of_ambiguousName?
    decide +kernel
  obtain ⟨hduplicate, happart⟩ := ambiguous_iff_shown_twice Source.prepared Kind.searchOrder 9
    repeatedReplies ⟨"Al", 5, "token"⟩ hend
  exact ⟨hend, hduplicate.mp rfl, happart⟩

/-- One user who is handed out twice makes the display name ambiguous. -/
theorem repeatedUser_refused :
    (resolve Source.prepared Kind.searchOrder 9 repeatedReplies ⟨"Al", 5, "token"⟩).result =
        some (.error (.duplicateName "Al" none)) ∧
      ¬ PeopleToldApart ⟨"Al", 5, "token"⟩ repeatedFetches
        (.error (.duplicateName "Al" none)) := by
  constructor
  · apply Run.result_of_ambiguousName?
    decide +kernel
  · intro happart
    have hids : (shownIn ⟨"Al", 5, "token"⟩ repeatedFetches).map Item.id = ["U1", "U1"] := by
      decide +kernel
    have hid : ∀ u ∈ shownIn ⟨"Al", 5, "token"⟩ repeatedFetches, u.id = "U1" := by
      intro u hu
      have hmem := List.mem_map_of_mem (f := Item.id) hu
      rw [hids] at hmem
      simpa using hmem
    have harrived : ∀ f ∈ repeatedFetches, f.arrives ⟨"Al", 5, "token"⟩ = true :=
      List.all_eq_true.mp (by decide +kernel)
    rcases happart.ambiguous rfl with ⟨before, f, hfs, hfailed⟩ | ⟨u, hu, v, hv, hne⟩
    · have hmem : f ∈ repeatedFetches := hfs ▸ List.mem_append_right before List.mem_cons_self
      have harrives := harrived f hmem
      simp only [Fetch.arrives, hfailed, Bool.false_eq_true] at harrives
    · exact hne ((hid u hu).trans (hid v hv).symm)

end AlertRelay.Channel
