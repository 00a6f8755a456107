import AlertRelay.Proofs.Search.Fetches

/-!
What a search finds in lists that are handed out in pages.

`verdict` decides from the whole lists, without pages: a name beats a display name, channels
come before users, and a display name counts only if one user goes by it.  Main statement: a
search that gets all its pages in time ends with that verdict, however the lists are cut
(`resolve_of_deals`).
-/

namespace AlertRelay.Channel

/-- Whom a name leads to, given all channels and all users. -/
def verdict (name : String) (channels users : List Item) : Except Failure Outcome :=
  match channels.find? (Item.isNamed name), users.find? (Item.isNamed name),
      users.filter (Item.isShownAs name) with
  | some channel, _, _ => .ok (.found .channel channel.id)
  | none, some user, _ => .ok (.found .user user.id)
  | none, none, [] => .ok (.notFound .user)
  | none, none, [user] => .ok (.found .user user.id)
  | none, none, _ :: _ :: _ => .error (.duplicateName name none)

/-- Of channels only identities and names count. -/
theorem verdict_congr_channels (name : String) {channels others : List Item}
    (users : List Item)
    (h : others.map (fun i => (i.name, i.id)) = channels.map fun i => (i.name, i.id)) :
    verdict name others users = verdict name channels users := by
  have hfind : ∀ items : List Item,
      (items.find? (Item.isNamed name)).map (·.id) =
        ((items.map fun i => (i.name, i.id)).find?
          fun i => Text.lower i.1 == Text.lower name).map (·.2) := by
    intro items
    rw [List.find?_map, Option.map_map]
    rfl
  have hsame : (others.find? (Item.isNamed name)).map (·.id) =
      (channels.find? (Item.isNamed name)).map (·.id) := by
    rw [hfind others, hfind channels, h]
  unfold verdict
  cases hothers : others.find? (Item.isNamed name) with
  | none =>
      rw [hothers] at hsame
      rw [Option.map_eq_none_iff.mp hsame.symm]
  | some other =>
      rw [hothers] at hsame
      obtain ⟨channel, hchannel, hid⟩ := Option.map_eq_some_iff.mp hsame.symm
      rw [hchannel]
      simp only [hid]

namespace Search

/-- What is remembered of the items that were shown under the wanted display name so far: the
first of them, and whether there was another one. -/
def Holds (s : Search) (shown : List Item) : Prop :=
  s.candidate = shown.head?.map (·.id) ∧ s.ambiguous = decide (2 ≤ shown.length)

theorem inList_holds (q : Query) (kind : Kind) (later : List Kind) :
    (inList q kind later).Holds [] :=
  ⟨rfl, rfl⟩

theorem matchesDisplayName_congr {s t : Search} (hquery : s.query = t.query)
    (hkind : s.kind = t.kind) : s.matchesDisplayName = t.matchesDisplayName := by
  funext item
  simp only [matchesDisplayName, hquery, hkind]

theorem Holds.remember {s : Search} {shown : List Item} (h : s.Holds shown) (item : Item) :
    (s.remember item).Holds (shown ++ [item].filter s.matchesDisplayName) := by
  cases hmatch : s.matchesDisplayName item with
  | false => simpa [Search.remember, hmatch] using h
  | true =>
      obtain ⟨hcandidate, hambiguous⟩ := h
      cases shown with
      | nil =>
          simp [Search.remember, hmatch, Holds, hcandidate, hambiguous]
      | cons first rest =>
          simp [Search.remember, hmatch, Holds, hcandidate]

theorem Holds.read {s : Search} {shown : List Item} (h : s.Holds shown) (items : List Item) :
    (s.read items).Holds (shown ++ items.filter s.matchesDisplayName) := by
  induction items generalizing s shown with
  | nil => simpa using h
  | cons item rest ih =>
      have hkept := remember_kept s item
      have hrest := ih (h.remember item)
      rw [matchesDisplayName_congr hkept.1 hkept.2.1, List.append_assoc,
        ← List.filter_append, List.singleton_append] at hrest
      exact hrest

/-- What becomes of a search at the end of a list in which these items were shown under the
wanted display name. -/
def listEnd (q : Query) (kind : Kind) (later : List Kind) (shown : List Item) : Next :=
  match shown, later with
  | [], next :: later => .more (inList q next later)
  | [], [] => .ended (.notFound kind)
  | [item], _ => .ended (.found kind item.id)
  | _ :: _ :: _, _ => .failed (.duplicateName q.name none)

theorem Holds.endOfList {s : Search} {shown : List Item} (h : s.Holds shown) :
    s.endOfList = listEnd s.query s.kind s.later shown := by
  obtain ⟨hcandidate, hambiguous⟩ := h
  unfold Search.endOfList listEnd
  rw [hcandidate, hambiguous]
  cases shown with
  | nil => cases s.later <;> rfl
  | cons first rest =>
      cases rest with
      | nil => rfl
      | cons second rest => simp

end Search

/-- Whether a page came back, and in time. -/
def Fetch.arrives (q : Query) (f : Fetch) : Bool :=
  match f.reply with
  | .page _ => !f.late q
  | .failed _ => false

section Deals

variable {σ : Type} (source : Source σ)

/-- A source hands out a list of a kind from a cursor on, in these pieces: every page but the
last names the cursor of the page after it.  It may fail on the way.  When the whole list has
been handed out, its state is one that satisfies `after`. -/
inductive Source.Deals (kind : Kind) (after : σ → Prop) :
    σ → String → List (List Item) → Prop
  | last {state : σ} {cursor : String} {p : Page}
      (hreply : (source state kind cursor).1 = .page p) (hnext : p.following? = none)
      (hafter : after (source state kind cursor).2.2) : Deals kind after state cursor [p.items]
  | more {state : σ} {cursor next : String} {p : Page} {pieces : List (List Item)}
      (hreply : (source state kind cursor).1 = .page p) (hnext : p.following? = some next)
      (h : Deals kind after (source state kind cursor).2.2 next pieces) :
      Deals kind after state cursor (p.items :: pieces)
  | failed {state : σ} {cursor : String} {why : Failure} (piece : List Item)
      (pieces : List (List Item)) (hreply : (source state kind cursor).1 = .failed why) :
      Deals kind after state cursor (piece :: pieces)

variable {source}

/-- A page that arrives in time ends the search with a hit, or leads on to the page after it or
to the end of its list. -/
theorem Search.receive_arrived (s : Search) {f : Fetch} {p : Page} (hreply : f.reply = .page p)
    (harrives : f.arrives s.query = true) :
    (∃ item, p.items.find? (Item.isNamed s.query.name) = some item ∧
      s.receive (.page p) f.time = .ended (.found s.kind item.id)) ∨
    (p.items.find? (Item.isNamed s.query.name) = none ∧
      s.receive (.page p) f.time =
        match p.following? with
        | some cursor => .more { s.read p.items with cursor := cursor }
        | none => (s.read p.items).endOfList) := by
  have htime : s.query.deadline.lt f.time = false := by
    simpa [Fetch.arrives, hreply, Fetch.late] using harrives
  rcases receivePage_cases s p f.time with
    ⟨item, hfind, heq⟩ | ⟨_, hlate, _⟩ | ⟨cursor, hfind, _, hnext, heq⟩ | ⟨hfind, _, hnext, heq⟩
  · exact Or.inl ⟨item, hfind, heq⟩
  · cases htime.symm.trans hlate
  · rw [hnext]
    exact Or.inr ⟨hfind, heq⟩
  · rw [hnext]
    exact Or.inr ⟨hfind, heq⟩

/-- Room for a page and some more is room for one page, and for the others after it. -/
theorem exists_pages {piece : List Item} {pieces : List (List Item)} {pages : Nat}
    (h : (piece :: pieces).length ≤ pages) :
    ∃ rest, pages = rest + 1 ∧ pieces.length ≤ rest := by
  cases pages with
  | zero => cases h
  | succ rest => exact ⟨rest, rfl, Nat.le_of_succ_le_succ h⟩

/-- A search that gets the pages of a list in time finds the first item with the wanted name,
or goes on as the items shown under the wanted display name decide. -/
theorem Run.result_of_deals {kind : Kind} {after : σ → Prop} {state : σ} {cursor : String}
    {pieces : List (List Item)} (h : source.Deals kind after state cursor pieces)
    {s : Search} {shown : List Item} (hs : s.Holds shown) (hkind : s.kind = kind)
    (hcursor : s.cursor = cursor) {pages : Nat} (hpages : pieces.length ≤ pages)
    (harrives : ∀ f ∈ Run.fetches source pages state (.more s), f.arrives s.query = true) :
    (∃ item, pieces.flatten.find? (Item.isNamed s.query.name) = some item ∧
      (ofNext source pages state (.more s)).result = some (.ok (.found kind item.id))) ∨
    (pieces.flatten.find? (Item.isNamed s.query.name) = none ∧ ∃ last : σ, after last ∧
      let next := Search.listEnd s.query kind s.later
        (shown ++ pieces.flatten.filter s.matchesDisplayName)
      (ofNext source pages state (.more s)).result =
          (ofNext source (pages - pieces.length) last next).result ∧
        ∀ f ∈ Run.fetches source (pages - pieces.length) last next,
          f ∈ Run.fetches source pages state (.more s)) := by
  induction h generalizing s shown pages with
  | failed piece pieces hreply =>
      obtain ⟨pages, rfl, _⟩ := exists_pages hpages
      subst hkind hcursor
      -- Every fetch arrives, so the source cannot have failed here.
      have hfirst := harrives _ List.mem_cons_self
      simp [Fetch.arrives, hreply] at hfirst
  | @last state cursor p hreply hnext hafter =>
      obtain ⟨pages, rfl, _⟩ := exists_pages hpages
      subst hkind hcursor
      have harrived := s.receive_arrived hreply (harrives _ List.mem_cons_self)
      rw [hnext] at harrived
      rw [Run.fetches_more, Run.result_more, hreply, List.flatten_singleton]
      rcases harrived with ⟨item, hfind, heq⟩ | ⟨hfind, heq⟩
      · refine Or.inl ⟨item, hfind, ?_⟩
        rw [heq]
        cases pages <;> rfl
      · have hend : (s.read p.items).endOfList = Search.listEnd s.query s.kind s.later
            (shown ++ p.items.filter s.matchesDisplayName) := by
          rw [(hs.read p.items).endOfList, Search.read_query, Search.read_kind,
            Search.read_later]
        rw [heq, hend]
        exact Or.inr ⟨hfind, _, hafter, rfl, fun f hf => List.mem_cons_of_mem _ hf⟩
  | @more state cursor next p pieces hreply hnext _ ih =>
      obtain ⟨pages, rfl, hroom⟩ := exists_pages hpages
      subst hkind hcursor
      have harrived := s.receive_arrived hreply (harrives _ List.mem_cons_self)
      rw [hnext] at harrived
      rw [Run.fetches_more, hreply] at harrives
      rw [Run.fetches_more, Run.result_more, hreply, List.flatten_cons, List.find?_append]
      rcases harrived with ⟨item, hfind, heq⟩ | ⟨hfind, heq⟩
      · refine Or.inl ⟨item, ?_, ?_⟩
        · rw [hfind]
          rfl
        · rw [heq]
          cases pages <;> rfl
      · rw [heq] at harrives ⊢
        have hquery : ({ s.read p.items with cursor := next } : Search).query = s.query :=
          Search.read_query s p.items
        have hrest := ih (s := { s.read p.items with cursor := next })
          (hs.read p.items) (Search.read_kind s p.items) rfl hroom (by
            intro f hf
            rw [hquery]
            exact harrives f (List.mem_cons_of_mem _ hf))
        have hmatches :
            ({ s.read p.items with cursor := next } : Search).matchesDisplayName =
              s.matchesDisplayName :=
          Search.matchesDisplayName_congr hquery (Search.read_kind s p.items)
        rw [hquery, hmatches] at hrest
        rw [hfind, Option.none_or, List.filter_append, ← List.append_assoc, List.length_cons,
          Nat.add_sub_add_right]
        rcases hrest with hrest | ⟨hnone, last, hlast, hresult, hfetches⟩
        · exact Or.inl hrest
        · rw [Search.read_later] at hresult hfetches
          exact Or.inr ⟨hnone, last, hlast, hresult,
            fun f hf => List.mem_cons_of_mem _ (hfetches f hf)⟩

/-- Channels are never remembered for their display name. -/
theorem Search.filter_shown_channels (q : Query) (later : List Kind) (items : List Item) :
    items.filter (Search.inList q .channel later).matchesDisplayName = [] := by
  rw [List.filter_eq_nil_iff]
  intro item _
  exact Bool.false_ne_true

/-- A search that gets every page it asks for in time ends with the verdict on the whole lists,
however these are cut into pages; and of channels only names and identities count. -/
theorem resolve_of_deals {state : σ} {channels users : List (List Item)} (q : Query)
    {pages : Nat}
    (hlists : source.Deals .channel
      (fun last => source.Deals .user (fun _ => True) last "" users) state "" channels)
    (hpages : channels.length + users.length ≤ pages)
    (harrives : ∀ f ∈ Run.fetches source pages state (Search.start q Kind.searchOrder),
      f.arrives q = true) :
    (resolve source Kind.searchOrder pages state q).result =
        some (verdict q.name channels.flatten users.flatten) ∧
      ∀ others : List Item,
        others.map (fun i => (i.name, i.id)) =
            channels.flatten.map (fun i => (i.name, i.id)) →
          (resolve source Kind.searchOrder pages state q).result =
            some (verdict q.name others users.flatten) := by
  have hverdict : (resolve source Kind.searchOrder pages state q).result =
      some (verdict q.name channels.flatten users.flatten) := by
    have hchannels := Run.result_of_deals hlists (Search.inList_holds q .channel [.user]) rfl
      rfl (Nat.le_trans (Nat.le_add_right _ _) hpages) harrives
    rw [Search.filter_shown_channels] at hchannels
    -- Nobody is shown among channels, so their list leads on to that of users.
    rcases hchannels with ⟨item, hfind, hresult⟩ | ⟨hnone, last, husers, hresult, hfetches⟩
    · refine hresult.trans ?_
      have hfind : channels.flatten.find? (Item.isNamed q.name) = some item := hfind
      rw [verdict, hfind]
    · have hnone : channels.flatten.find? (Item.isNamed q.name) = none := hnone
      have hlater := Run.result_of_deals husers (Search.inList_holds q .user []) rfl rfl
        (Nat.le_sub_of_add_le' hpages) (fun f hf => harrives f (hfetches f hf))
      refine hresult.trans ?_
      rcases hlater with ⟨item, hfind, hend⟩ | ⟨hnone', _, _, hend, _⟩
      · have hfind : users.flatten.find? (Item.isNamed q.name) = some item := hfind
        refine hend.trans ?_
        rw [verdict, hnone, hfind]
      · have hnone' : users.flatten.find? (Item.isNamed q.name) = none := hnone'
        have hshown : (Search.inList q .user []).matchesDisplayName =
            Item.isShownAs q.name := rfl
        refine hend.trans ?_
        rw [hshown, List.nil_append, verdict, hnone, hnone']
        generalize users.flatten.filter (Item.isShownAs q.name) = shown
        cases shown with
        | nil => cases pages - channels.length - users.length <;> rfl
        | cons first rest =>
            cases rest <;> cases pages - channels.length - users.length <;> rfl
  refine ⟨hverdict, ?_⟩
  intro others hothers
  rw [verdict_congr_channels q.name users.flatten hothers]
  exact hverdict

end Deals

/-- Two pages of channels and three of users, one of them empty; the last one arrives just at
the deadline.  A channel and one user are shown as "Al". -/
def pagedReplies : List (Reply × Double) :=
  [(.page ⟨[⟨"C1", "general", none, []⟩], some "c1"⟩, 1),
    (.page ⟨[⟨"C2", "ops", some "Al", []⟩], none⟩, 2),
    (.page ⟨[⟨"U1", "alice", some "Al", []⟩], some "u1"⟩, 3),
    (.page ⟨[], some "u2"⟩, 4),
    (.page ⟨[⟨"U2", "bob", some "al", []⟩], some ""⟩, 5)]

theorem pagedReplies_deals :
    Source.prepared.Deals .channel
      (fun last => Source.prepared.Deals .user (fun _ => True) last ""
        [[⟨"U1", "alice", some "Al", []⟩], [], [⟨"U2", "bob", some "al", []⟩]])
      pagedReplies ""
      [[⟨"C1", "general", none, []⟩], [⟨"C2", "ops", some "Al", []⟩]] := by
  refine .more (p := ⟨[⟨"C1", "general", none, []⟩], some "c1"⟩) rfl rfl ?_
  refine .last (p := ⟨[⟨"C2", "ops", some "Al", []⟩], none⟩) rfl rfl ?_
  refine .more (p := ⟨[⟨"U1", "alice", some "Al", []⟩], some "u1"⟩) rfl rfl ?_
  refine .more (p := ⟨[], some "u2"⟩) rfl rfl ?_
  exact .last (p := ⟨[⟨"U2", "bob", some "al", []⟩], some ""⟩) rfl rfl trivial

theorem resolve_pagedReplies :
    (resolve Source.prepared Kind.searchOrder 5 pagedReplies ⟨"Al", 5, "token"⟩).result =
      some (verdict "Al" [⟨"C1", "general", none, []⟩, ⟨"C2", "ops", some "Al", []⟩]
        [⟨"U1", "alice", some "Al", []⟩, ⟨"U2", "bob", some "al", []⟩]) :=
  (resolve_of_deals ⟨"Al", 5, "token"⟩ pagedReplies_deals (by decide)
    (List.all_eq_true.mp (by decide +kernel))).1

end AlertRelay.Channel
