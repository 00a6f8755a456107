import AlertRelay.Proofs.Search.Fetches

/-!
How a search ends.

Failure, lateness, a hit and the end of a list may meet on one page.  `EndsAs` says which of
them wins, in terms of the fetches alone.  Main statement: the fetches and the result of every
search that ends go together that way, whatever the source and the clock
(`resolve_endsAs`).
-/

namespace AlertRelay.Channel

namespace Search

/-- Nobody is remembered outside the list of users. -/
def OnlyUsers (s : Search) : Prop :=
  s.candidate ≠ none ∨ s.ambiguous = true → s.kind = .user

theorem inList_onlyUsers (q : Query) (kind : Kind) (later : List Kind) :
    (inList q kind later).OnlyUsers := by
  intro h
  rcases h with h | h
  · exact absurd rfl h
  · cases h

theorem OnlyUsers.remember {s : Search} (hs : s.OnlyUsers) (item : Item) :
    (s.remember item).OnlyUsers := by
  intro h
  rw [(remember_kept s item).2.1]
  by_cases hshown : s.matchesDisplayName item = true
  · simp only [matchesDisplayName, Bool.and_eq_true, beq_iff_eq] at hshown
    exact hshown.1
  · rw [Search.remember, if_neg hshown] at h
    exact hs h

theorem OnlyUsers.read {s : Search} (hs : s.OnlyUsers) (items : List Item) :
    (s.read items).OnlyUsers := by
  induction items generalizing s with
  | nil => exact hs
  | cons item rest ih => exact ih (hs.remember item)

theorem OnlyUsers.receive {s s' : Search} (hs : s.OnlyUsers) {f : Fetch}
    (h : s.receive f.reply f.time = .more s') : s'.OnlyUsers := by
  obtain ⟨p, _, ⟨cursor, _, rfl⟩ | ⟨_, kind, later, _, rfl⟩⟩ := receive_more h
  · exact hs.read p.items
  · exact inList_onlyUsers s.query kind later

/-- A list that ends with a result names several people, one person, or nobody. -/
theorem endOfList_result {s : Search} {r : Except Failure Outcome}
    (h : s.endOfList.result? = some r) :
    (s.ambiguous = true ∧ r = .error (.duplicateName s.query.name none)) ∨
    (∃ id, s.candidate = some id ∧ r = .ok (.found s.kind id)) ∨
    r = .ok (.notFound s.kind) := by
  unfold endOfList at h
  split at h
  · rename_i hambiguous
    exact Or.inl ⟨hambiguous, (Option.some.inj h).symm⟩
  · split at h
    · rename_i id hcandidate
      exact Or.inr (Or.inl ⟨id, hcandidate, (Option.some.inj h).symm⟩)
    · split at h
      · cases h
      · exact Or.inr (Or.inr (Option.some.inj h).symm)

/-- What a fetch can make of a search that it ends: it failed, it brought a hit, it came too
late, or it ended the last list. -/
theorem receive_result {s : Search} {f : Fetch} {r : Except Failure Outcome}
    (h : (s.receive f.reply f.time).result? = some r) :
    (∃ why, f.reply = .failed why ∧
      r = if why.isApiError then .ok (.notFound s.kind) else .error why) ∨
    (∃ item, f.hit? s.query = some item ∧ r = .ok (.found s.kind item.id)) ∨
    (∃ p, f.reply = .page p ∧ f.hit? s.query = none ∧ f.late s.query = true ∧
      r = .ok (.timedOut s.kind)) ∨
    (∃ p, f.Passes s.query p ∧ p.following? = none ∧
      (s.read p.items).endOfList.result? = some r) := by
  cases hreply : f.reply with
  | failed why =>
      rw [hreply] at h
      refine Or.inl ⟨why, rfl, ?_⟩
      cases hapi : why.isApiError <;>
        simp only [receive, hapi, if_true, Bool.false_eq_true, if_false] at h ⊢ <;>
        exact (Option.some.inj h).symm
  | page p =>
      rw [hreply] at h
      have hhit := Fetch.hit?_page (q := s.query) hreply
      rcases receivePage_cases s p f.time with
        ⟨item, hfind, heq⟩ | ⟨hfind, hlate, heq⟩ | ⟨cursor, hfind, hlate, hnext, heq⟩ |
          ⟨hfind, hlate, hnext, heq⟩
      · rw [receive, heq] at h
        exact Or.inr (Or.inl ⟨item, hhit.trans hfind, (Option.some.inj h).symm⟩)
      · rw [receive, heq] at h
        exact Or.inr (Or.inr (Or.inl
          ⟨p, rfl, hhit.trans hfind, hlate, (Option.some.inj h).symm⟩))
      · rw [receive, heq] at h
        cases h
      · rw [receive, heq] at h
        exact Or.inr (Or.inr (Or.inr ⟨p, ⟨hreply, hhit.trans hfind, hlate⟩, hnext, h⟩))

end Search

/-- The last fetch of a search that ended, and all before it: each of these brought a page that
left the search open, and the last one made the result of the search as it then stood. -/
structure Finale (q : Query) (before : List Fetch) (last : Fetch) (s : Search)
    (r : Except Failure Outcome) : Prop where
  query_eq : s.query = q
  onlyUsers : s.OnlyUsers
  kind_eq : last.kind = s.kind
  passed : ∀ f ∈ before, ∃ p, f.Passes q p
  result_eq : (s.receive last.reply last.time).result? = some r

namespace Course

variable {e : Next} {before : List Fetch} {last : Fetch}

/-- Every fetch before the last one brought a page that left the search open. -/
theorem passes_before {s : Search} (h : Course (.more s) (before ++ [last]) e) :
    ∀ f ∈ before, ∃ p, f.Passes s.query p := by
  intro f hf
  obtain ⟨first, rest, rfl⟩ := List.append_of_mem hf
  rw [List.append_assoc, List.cons_append] at h
  obtain ⟨t, hfirst, _, hrest⟩ := h.split
  have hmore : ∃ t', t.receive f.reply f.time = .more t' := by
    cases rest with
    | nil => exact hrest.eq_more.imp fun _ h => h.1
    | cons g rest => exact hrest.eq_more.imp fun _ h => h.1
  obtain ⟨t', hnext⟩ := hmore
  obtain ⟨p, hpasses, _⟩ := Search.receive_more hnext
  rw [hfirst.query_eq] at hpasses
  exact ⟨p, hpasses⟩

/-- A search that is under way ends with a last fetch. -/
theorem finale {s : Search} {fs : List Fetch} {r : Except Failure Outcome}
    (hs : s.OnlyUsers) (h : Course (.more s) fs e) (hr : e.result? = some r) :
    ∃ before last t, fs = before ++ [last] ∧ Finale s.query before last t r := by
  rcases List.eq_nil_or_concat fs with rfl | ⟨before, last, rfl⟩
  · rw [← h.eq_of_nil] at hr
    cases hr
  · rw [List.concat_eq_append] at h ⊢
    obtain ⟨t, hbefore, hrequest, hlast⟩ := h.split
    rw [← hlast.eq_of_nil] at hr
    have husers : t.OnlyUsers :=
      hbefore.keeps (fun u u' f hu hnext => hu.receive hnext) hs
    exact ⟨before, last, t, rfl, hbefore.query_eq, husers, congrArg Prod.fst hrequest,
      h.passes_before, hr⟩

end Course

/-- A fetch among others is the last one, or stands before it. -/
theorem eq_last_or_mem {before first after : List Fetch} {last f : Fetch}
    (h : before ++ [last] = first ++ f :: after) :
    (after = [] ∧ f = last ∧ first = before) ∨ f ∈ before := by
  rcases List.eq_nil_or_concat after with rfl | ⟨rest, g, rfl⟩
  · obtain ⟨hbefore, hlast⟩ := List.append_inj' h rfl
    exact Or.inl ⟨rfl, (List.cons.inj hlast).1.symm, hbefore.symm⟩
  · rw [List.concat_eq_append, ← List.cons_append, ← List.append_assoc] at h
    obtain ⟨hbefore, _⟩ := List.append_inj' h rfl
    exact Or.inr (hbefore ▸ List.mem_append_right first List.mem_cons_self)

/-- The list of users ended: its last page came in time and names no further one, and no fetch
of the search failed, came late or brought the wanted name. -/
def UsersExhausted (q : Query) (fs : List Fetch) : Prop :=
  ∃ before last p, fs = before ++ [last] ∧ last.kind = .user ∧ last.Passes q p ∧
    p.following? = none ∧ ∀ f ∈ before, ∃ p, f.Passes q p

namespace Finale

variable {q : Query} {before : List Fetch} {last : Fetch} {s : Search}
  {r : Except Failure Outcome}

theorem not_late (h : Finale q before last s r) : ∀ f ∈ before, f.late q = false := by
  intro f hf
  obtain ⟨p, hpasses⟩ := h.passed f hf
  exact hpasses.2.2

/-- All that the last fetch can have done. -/
theorem cases_last (h : Finale q before last s r) :
    (∃ why, last.reply = .failed why ∧
      r = if why.isApiError then .ok (.notFound last.kind) else .error why) ∨
    (∃ item, last.hit? q = some item ∧ r = .ok (.found last.kind item.id)) ∨
    (∃ p, last.reply = .page p ∧ last.hit? q = none ∧ last.late q = true ∧
      r = .ok (.timedOut last.kind)) ∨
    (∃ p, last.Passes q p ∧ p.following? = none ∧
      (s.read p.items).endOfList.result? = some r) := by
  have hresult := Search.receive_result h.result_eq
  rw [h.query_eq, ← h.kind_eq] at hresult
  exact hresult

/-- A result at the end of a list names several people or one, or it names nobody. -/
theorem cases_endOfList (h : Finale q before last s r) {p : Page}
    (hpasses : last.Passes q p) (hnext : p.following? = none)
    (hr : (s.read p.items).endOfList.result? = some r) :
    ((r = .error (.duplicateName q.name none) ∨ ∃ id, r = .ok (.found .user id)) ∧
      UsersExhausted q (before ++ [last])) ∨
    r = .ok (.notFound last.kind) := by
  have husers := h.onlyUsers.read p.items
  have hexhausted : (s.read p.items).kind = .user → UsersExhausted q (before ++ [last]) := by
    intro hkind
    rw [Search.read_kind, ← h.kind_eq] at hkind
    exact ⟨before, last, p, rfl, hkind, hpasses, hnext, h.passed⟩
  rcases Search.endOfList_result hr with ⟨hambiguous, rfl⟩ | ⟨id, hcandidate, rfl⟩ | rfl
  · rw [Search.read_query, h.query_eq]
    exact Or.inl ⟨Or.inl rfl, hexhausted (husers (Or.inr hambiguous))⟩
  · have hkind := husers (Or.inl (hcandidate ▸ Option.some_ne_none id))
    rw [hkind]
    exact Or.inl ⟨Or.inr ⟨id, rfl⟩, hexhausted hkind⟩
  · rw [Search.read_kind, ← h.kind_eq]
    exact Or.inr rfl

/-- A search times out exactly when its last page comes late and without the wanted name. -/
theorem timedOut_iff (h : Finale q before last s r) (kind : Kind) :
    r = .ok (.timedOut kind) ↔
      last.kind = kind ∧ last.late q = true ∧
        ∃ p, last.reply = .page p ∧ last.hit? q = none := by
  constructor
  · intro hr
    rcases h.cases_last with ⟨why, _, heq⟩ | ⟨item, _, heq⟩ | ⟨p, hreply, hhit, hlate, heq⟩ |
      ⟨p, hpasses, hnext, hend⟩
    · rw [hr] at heq
      split at heq <;> cases heq
    · cases hr.symm.trans heq
    · cases hr.symm.trans heq
      exact ⟨rfl, hlate, p, hreply, hhit⟩
    · rcases h.cases_endOfList hpasses hnext hend with ⟨heq | ⟨id, heq⟩, _⟩ | heq <;>
        cases hr.symm.trans heq
  · rintro ⟨hkind, hlate, p, hreply, hhit⟩
    rcases h.cases_last with ⟨why, hfailed, _⟩ | ⟨item, hitem, _⟩ | ⟨_, _, _, _, heq⟩ |
      ⟨p', hpasses, _, _⟩
    · cases hreply.symm.trans hfailed
    · cases hhit.symm.trans hitem
    · rw [heq, hkind]
    · cases hlate.symm.trans hpasses.2.2

/-- A page with the wanted name is the last one and wins, whenever it comes. -/
theorem found_of_hit (h : Finale q before last s r) {first after : List Fetch} {f : Fetch}
    {item : Item} (hfs : before ++ [last] = first ++ f :: after)
    (hhit : f.hit? q = some item) : after = [] ∧ r = .ok (.found f.kind item.id) := by
  rcases eq_last_or_mem hfs with ⟨hafter, rfl, _⟩ | hf
  · refine ⟨hafter, ?_⟩
    rcases h.cases_last with ⟨why, hfailed, _⟩ | ⟨item', hitem, heq⟩ | ⟨_, _, hnone, _, _⟩ |
      ⟨p, hpasses, _, _⟩
    · cases (Fetch.hit?_failed hfailed).symm.trans hhit
    · cases hitem.symm.trans hhit
      exact heq
    · cases hnone.symm.trans hhit
    · cases hpasses.2.1.symm.trans hhit
  · obtain ⟨p, hpasses⟩ := h.passed f hf
    cases hpasses.2.1.symm.trans hhit

/-- A fetch that fails is the last one. -/
theorem failed_last (h : Finale q before last s r) {first after : List Fetch} {f : Fetch}
    {why : Failure} (hfs : before ++ [last] = first ++ f :: after)
    (hfailed : f.reply = .failed why) :
    after = [] ∧ r = if why.isApiError then .ok (.notFound f.kind) else .error why := by
  rcases eq_last_or_mem hfs with ⟨hafter, rfl, _⟩ | hf
  · refine ⟨hafter, ?_⟩
    rcases h.cases_last with ⟨why', hfailed', heq⟩ | ⟨item, hitem, _⟩ | ⟨_, hreply, _, _, _⟩ |
      ⟨p, hpasses, _, _⟩
    · cases hfailed'.symm.trans hfailed
      exact heq
    · cases (Fetch.hit?_failed hfailed).symm.trans hitem
    · cases hreply.symm.trans hfailed
    · cases hpasses.1.symm.trans hfailed
  · obtain ⟨p, hpasses⟩ := h.passed f hf
    cases hpasses.1.symm.trans hfailed

/-- Somebody is found by the name on the last page, or by a display name once the list of users
is exhausted. -/
theorem found_cases (h : Finale q before last s r) {kind : Kind} {id : String}
    (hr : r = .ok (.found kind id)) :
    (∃ item, last.hit? q = some item ∧ last.kind = kind ∧ item.id = id) ∨
      (kind = .user ∧ UsersExhausted q (before ++ [last])) := by
  rcases h.cases_last with ⟨why, _, heq⟩ | ⟨item, hitem, heq⟩ | ⟨_, _, _, _, heq⟩ |
    ⟨p, hpasses, hnext, hend⟩
  · rw [hr] at heq
    split at heq <;> cases heq
  · cases hr.symm.trans heq
    exact Or.inl ⟨item, hitem, rfl, rfl⟩
  · cases hr.symm.trans heq
  · rcases h.cases_endOfList hpasses hnext hend with ⟨heq | ⟨id', heq⟩, hexhausted⟩ | heq
    · cases hr.symm.trans heq
    · cases hr.symm.trans heq
      exact Or.inr ⟨rfl, hexhausted⟩
    · cases hr.symm.trans heq

/-- A search fails because the last fetch did, or because several users go by the wanted display
name and their list is exhausted. -/
theorem error_cases (h : Finale q before last s r) {why : Failure} (hr : r = .error why) :
    last.reply = .failed why ∨
      (why = .duplicateName q.name none ∧ UsersExhausted q (before ++ [last])) := by
  rcases h.cases_last with ⟨why', hfailed, heq⟩ | ⟨_, _, heq⟩ | ⟨_, _, _, _, heq⟩ |
    ⟨p, hpasses, hnext, hend⟩
  · rw [hr] at heq
    split at heq
    · cases heq
    · cases heq
      exact Or.inl hfailed
  · cases hr.symm.trans heq
  · cases hr.symm.trans heq
  · rcases h.cases_endOfList hpasses hnext hend with ⟨heq | ⟨id', heq⟩, hexhausted⟩ | heq
    · cases hr.symm.trans heq
      exact Or.inr ⟨rfl, hexhausted⟩
    · cases hr.symm.trans heq
    · cases hr.symm.trans heq

end Finale

/-- How the fetches of a search through lists and its result go together. -/
structure EndsAs (q : Query) (kinds : List Kind) (fs : List Fetch)
    (r : Except Failure Outcome) : Prop where
  /-- The lists are fetched in their order, each page by page. -/
  walks : WalkThrough kinds fs
  /-- In the usual order users are asked for only after the last page of channels. -/
  usersAfterChannels : kinds = Kind.searchOrder → ∀ before f after,
    fs = before ++ f :: after → f.kind = .user → ∃ g ∈ before, g.kind = .channel ∧ g.EndsList
  /-- A search times out exactly when its last page comes late, without the wanted name, and
  all before it came in time. -/
  timedOut_iff : ∀ kind, r = .ok (.timedOut kind) ↔ ∃ before last p, fs = before ++ [last] ∧
    last.kind = kind ∧ last.reply = .page p ∧ (∀ item ∈ p.items, item.isNamed q.name = false) ∧
    last.late q = true ∧ ∀ f ∈ before, f.late q = false
  /-- At most one fetch comes back after the deadline. -/
  lateOnce : fs.countP (Fetch.late q) ≤ 1
  /-- The first item with the wanted name wins at once, also on a page that comes late. -/
  hitWins : ∀ before f after p item, fs = before ++ f :: after → f.reply = .page p →
    p.items.find? (Item.isNamed q.name) = some item → after = [] ∧ r = .ok (.found f.kind item.id)
  /-- A failed call to Slack ends the search without a result, any other failure is passed on;
  either way nothing more is fetched. -/
  failureEnds : ∀ before f after why, fs = before ++ f :: after → f.reply = .failed why →
    after = [] ∧ r = if why.isApiError then .ok (.notFound f.kind) else .error why
  /-- Who is not found by the name is a user, found when the list of users is exhausted. -/
  foundLast : ∀ kind id, r = .ok (.found kind id) →
    (∃ before f p item, fs = before ++ [f] ∧ f.kind = kind ∧ f.reply = .page p ∧
      p.items.find? (Item.isNamed q.name) = some item ∧ item.id = id) ∨
    (kind = .user ∧ UsersExhausted q fs)
  /-- A failure that no fetch ended with says that several users go by the wanted display name;
  their list is exhausted then. -/
  errorLast : ∀ why, r = .error why → (∃ before f, fs = before ++ [f] ∧ f.reply = .failed why) ∨
    (why = .duplicateName q.name none ∧ UsersExhausted q fs)

/-- A search through no list ends at once. -/
theorem endsAs_nowhere (q : Query) : EndsAs q [] [] (.ok nowhere) where
  walks := rfl
  usersAfterChannels := by
    intro h
    cases h
  timedOut_iff := by
    intro kind
    constructor
    · intro h
      cases h
    · rintro ⟨before, last, p, hfs, _⟩
      exact absurd hfs.symm (List.append_ne_nil_of_right_ne_nil before (List.cons_ne_nil _ _))
  lateOnce := Nat.zero_le 1
  hitWins := by
    intro before f after p item hfs
    exact absurd hfs.symm (List.append_ne_nil_of_right_ne_nil before (List.cons_ne_nil _ _))
  failureEnds := by
    intro before f after why hfs
    exact absurd hfs.symm (List.append_ne_nil_of_right_ne_nil before (List.cons_ne_nil _ _))
  foundLast := by
    intro kind id h
    cases h
  errorLast := by
    intro why h
    cases h

/-- The fetches that lead a search to its end go together with its result. -/
theorem Course.endsAs {q : Query} {kind : Kind} {later : List Kind} {fs : List Fetch} {e : Next}
    {r : Except Failure Outcome} (h : Course (.more (Search.inList q kind later)) fs e)
    (hr : e.result? = some r) : EndsAs q (kind :: later) fs r := by
  have hend : ∀ t, e ≠ .more t := by
    rintro t rfl
    cases hr
  have hwalk : Walk kind "" later fs := h.walk hend
  obtain ⟨before, last, s, rfl, hfinale⟩ :=
    h.finale (Search.inList_onlyUsers q kind later) hr
  change Finale q before last s r at hfinale
  refine ⟨hwalk, ?_, ?_, ?_, ?_, ?_, ?_, ?_⟩
  · intro horder first f after hfs hf
    obtain ⟨rfl, rfl⟩ := List.cons.inj horder
    exact hwalk.endsList_before hfs (by simp [hf])
  · intro kind'
    rw [hfinale.timedOut_iff]
    constructor
    · rintro ⟨hkind, hlate, p, hreply, hhit⟩
      rw [Fetch.hit?_page hreply, List.find?_eq_none] at hhit
      refine ⟨before, last, p, rfl, hkind, hreply, ?_, hlate, hfinale.not_late⟩
      intro item hitem
      exact Bool.not_eq_true _ ▸ hhit item hitem
    · rintro ⟨before', last', p, hfs, hkind, hreply, hnone, hlate, _⟩
      obtain ⟨_, hlast⟩ := List.append_inj' hfs rfl
      obtain rfl : last = last' := (List.cons.inj hlast).1
      refine ⟨hkind, hlate, p, hreply, ?_⟩
      rw [Fetch.hit?_page hreply, List.find?_eq_none]
      intro item hitem
      rw [hnone item hitem]
      exact Bool.false_ne_true
  · have hbefore : before.countP (Fetch.late q) = 0 := by
      rw [List.countP_eq_zero]
      intro f hf
      rw [hfinale.not_late f hf]
      exact Bool.false_ne_true
    rw [List.countP_append, hbefore, Nat.zero_add]
    exact List.countP_le_length
  · intro first f after p item hfs hreply hfind
    exact hfinale.found_of_hit hfs ((Fetch.hit?_page hreply).trans hfind)
  · intro first f after why hfs hfailed
    exact hfinale.failed_last hfs hfailed
  · intro kind' id hfound
    rcases hfinale.found_cases hfound with ⟨item, hhit, hkind, hid⟩ | hexhausted
    · cases hreply : last.reply with
      | page p =>
          rw [Fetch.hit?_page hreply] at hhit
          exact Or.inl ⟨before, last, p, item, rfl, hkind, hreply, hhit, hid⟩
      | failed why => cases (Fetch.hit?_failed hreply).symm.trans hhit
    · exact Or.inr hexhausted
  · intro why herror
    rcases hfinale.error_cases herror with hfailed | hexhausted
    · exact Or.inl ⟨before, last, rfl, hfailed⟩
    · exact Or.inr hexhausted

/-- The fetches of a search that ends go together with its result. -/
theorem Run.fetches_endsAs {σ : Type} (source : Source σ) (kinds : List Kind) (pages : Nat)
    (state : σ) (q : Query) {r : Except Failure Outcome}
    (hend : (resolve source kinds pages state q).result = some r) :
    EndsAs q kinds (Run.fetches source pages state (Search.start q kinds)) r := by
  obtain ⟨e, hcourse, hresult⟩ := Run.course_fetches source pages state (Search.start q kinds)
  have hr : e.result? = some r := hresult.symm.trans hend
  cases kinds with
  | nil =>
      have hnothing : Run.fetches source pages state (Search.start q []) = [] := by
        cases pages <;> rfl
      rw [hnothing] at hcourse ⊢
      rw [← hcourse.eq_of_nil] at hr
      cases hr
      exact endsAs_nowhere q
  | cons kind later => exact hcourse.endsAs hr

/-- Whenever a search ends, what it fetched and its result go together: this holds of every
source, whatever it answers or fails with, of every clock and of every deadline. -/
theorem resolve_endsAs {σ : Type} (source : Source σ) (kinds : List Kind) (pages : Nat)
    (state : σ) (q : Query) {r : Except Failure Outcome}
    (hend : (resolve source kinds pages state q).result = some r) :
    (resolve source kinds pages state q).fetched =
        (Run.fetches source pages state (Search.start q kinds)).map Fetch.request ∧
      EndsAs q kinds (Run.fetches source pages state (Search.start q kinds)) r :=
  ⟨Run.fetched_ofNext source pages state (Search.start q kinds),
    Run.fetches_endsAs source kinds pages state q hend⟩

/-- Two users are shown as "Al" before a call for users fails, after the deadline. -/
def interruptedReplies : List (Reply × Double) :=
  [(.page ⟨[⟨"C1", "general", none, []⟩], some "c1"⟩, 1),
    (.page ⟨[⟨"C2", "ops", some "Al", []⟩], none⟩, 2),
    (.page ⟨[⟨"U1", "alice", some "Al", []⟩, ⟨"U2", "bob", some "Al", []⟩], some "u1"⟩, 3),
    (.failed (.slack (invalidAnswer .user)), 9)]

theorem endsAs_interruptedReplies :
    (resolve Source.prepared Kind.searchOrder 9 interruptedReplies ⟨"Al", 5, "token"⟩).result =
        some (.ok (.notFound .user)) ∧
      EndsAs ⟨"Al", 5, "token"⟩ Kind.searchOrder
        (Run.fetches Source.prepared 9 interruptedReplies
          (Search.start ⟨"Al", 5, "token"⟩ Kind.searchOrder)) (.ok (.notFound .user)) := by
  have hend := Run.result_of_outcome? (r := resolve Source.prepared Kind.searchOrder 9
    interruptedReplies ⟨"Al", 5, "token"⟩) (o := .notFound .user) (by decide +kernel)
  exact ⟨hend, (resolve_endsAs Source.prepared Kind.searchOrder 9 interruptedReplies
    ⟨"Al", 5, "token"⟩ hend).2⟩

end AlertRelay.Channel
