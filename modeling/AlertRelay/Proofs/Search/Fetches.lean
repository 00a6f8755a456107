import AlertRelay.Channel.Search

/-!
What a search fetches.

A run is laid out as the list of its fetches, each with what came back and when.  `Course` ties
such a list to the states that the search goes through; it knows nothing of the source the
pages come from.  `receivePage_cases` says once what a page can make of a search, and all else
is derived from it.  Main statement: the fetches of a run that ends walk through the lists in
their order, each list page by page (`Course.walk`).
-/

namespace AlertRelay.Channel

/-- The cursor of the page after this one, if there is one. -/
def Page.following? (p : Page) : Option String :=
  p.next.filter (· != "")

namespace Item

/-- Whether an item has a name, in upper or lower case. -/
def isNamed (name : String) (item : Item) : Bool :=
  Text.lower item.name == Text.lower name

/-- Whether an item has exactly this display name. -/
def isShownAs (name : String) (item : Item) : Bool :=
  item.displayName == some name

end Item

/-- One page asked for in a search: of which list, from which cursor on, what came back, and
when. -/
structure Fetch where
  kind : Kind
  cursor : String
  reply : Reply
  time : Double

namespace Fetch

/-- What was asked for. -/
def request (f : Fetch) : Kind × String :=
  (f.kind, f.cursor)

/-- Whether it came back after the deadline. -/
def late (q : Query) (f : Fetch) : Bool :=
  q.deadline.lt f.time

/-- The first item with the wanted name on the page that came back. -/
def hit? (q : Query) (f : Fetch) : Option Item :=
  match f.reply with
  | .page p => p.items.find? (Item.isNamed q.name)
  | .failed _ => none

/-- A page came back that leaves the search open: in time, and without the wanted name. -/
def Passes (q : Query) (f : Fetch) (p : Page) : Prop :=
  f.reply = .page p ∧ f.hit? q = none ∧ f.late q = false

theorem hit?_page {q : Query} {f : Fetch} {p : Page} (hreply : f.reply = .page p) :
    f.hit? q = p.items.find? (Item.isNamed q.name) := by
  simp only [hit?, hreply]

theorem hit?_failed {q : Query} {f : Fetch} {why : Failure} (hreply : f.reply = .failed why) :
    f.hit? q = none := by
  simp only [hit?, hreply]

end Fetch

/-- How a search ended, if it did. -/
def Next.result? : Next → Option (Except Failure Outcome)
  | .more _ => none
  | .ended o => some (.ok o)
  | .gaveUp o _ => some (.ok o)
  | .failed f => some (.error f)

namespace Search

/-- A search that has looked through items and only remembered display names. -/
def read (s : Search) (items : List Item) : Search :=
  items.foldl remember s

@[simp] theorem read_nil (s : Search) : s.read [] = s :=
  rfl

theorem remember_kept (s : Search) (item : Item) :
    (s.remember item).query = s.query ∧ (s.remember item).kind = s.kind ∧
      (s.remember item).later = s.later := by
  unfold remember
  split
  · cases s.candidate <;> exact ⟨rfl, rfl, rfl⟩
  · exact ⟨rfl, rfl, rfl⟩

/-- Reading changes only what is remembered. -/
theorem read_kept (s : Search) (items : List Item) :
    (s.read items).query = s.query ∧ (s.read items).kind = s.kind ∧
      (s.read items).later = s.later := by
  induction items generalizing s with
  | nil => exact ⟨rfl, rfl, rfl⟩
  | cons item rest ih =>
      obtain ⟨hquery, hkind, hlater⟩ := ih (s.remember item)
      obtain ⟨hquery', hkind', hlater'⟩ := remember_kept s item
      exact ⟨hquery.trans hquery', hkind.trans hkind', hlater.trans hlater'⟩

@[simp] theorem read_query (s : Search) (items : List Item) :
    (s.read items).query = s.query :=
  (read_kept s items).1

@[simp] theorem read_kind (s : Search) (items : List Item) : (s.read items).kind = s.kind :=
  (read_kept s items).2.1

@[simp] theorem read_later (s : Search) (items : List Item) :
    (s.read items).later = s.later :=
  (read_kept s items).2.2

/-- What a page can make of a search: a hit ends it, whenever it arrives; without one, a page
that is late ends it; else it goes on to the page after, or its list ends. -/
theorem receivePage_cases (s : Search) (p : Page) (now : Double) :
    (∃ item, p.items.find? (Item.isNamed s.query.name) = some item ∧
      s.receivePage p now = .ended (.found s.kind item.id)) ∨
    (p.items.find? (Item.isNamed s.query.name) = none ∧ s.query.deadline.lt now = true ∧
      s.receivePage p now = .ended (.timedOut s.kind)) ∨
    (∃ cursor, p.items.find? (Item.isNamed s.query.name) = none ∧ s.query.deadline.lt now = false ∧
      p.following? = some cursor ∧
      s.receivePage p now = .more { s.read p.items with cursor := cursor }) ∨
    (p.items.find? (Item.isNamed s.query.name) = none ∧ s.query.deadline.lt now = false ∧
      p.following? = none ∧ s.receivePage p now = (s.read p.items).endOfList) := by
  have hnames : s.matchesName = Item.isNamed s.query.name := rfl
  have hread : p.items.foldl remember s = s.read p.items := rfl
  have hfollowing : p.next.filter (· != "") = p.following? := rfl
  simp only [receivePage, hnames, hread, hfollowing, read_kind, read_query]
  cases hfind : p.items.find? (Item.isNamed s.query.name) with
  | some item => exact Or.inl ⟨item, rfl, rfl⟩
  | none =>
      cases hlate : s.query.deadline.lt now with
      | true => exact Or.inr (Or.inl ⟨rfl, rfl, by simp⟩)
      | false =>
          cases hnext : p.following? with
          | some cursor => exact Or.inr (Or.inr (Or.inl ⟨cursor, rfl, rfl, rfl, by simp⟩))
          | none => exact Or.inr (Or.inr (Or.inr ⟨rfl, rfl, rfl, by simp⟩))

/-- A list that ends gives a result, unless there is another list and nobody is remembered. -/
theorem endOfList_more {s s' : Search} (h : s.endOfList = .more s') :
    ∃ kind later, s.later = kind :: later ∧ s' = inList s.query kind later := by
  unfold endOfList at h
  split at h
  · cases h
  · split at h
    · cases h
    · split at h
      · rename_i kind later hlater
        cases h
        exact ⟨kind, later, hlater, rfl⟩
      · cases h

/-- A search that goes on has read a page that leaves it open: it goes on to the page after, or
to the beginning of the next list. -/
theorem receive_more {s s' : Search} {f : Fetch} (h : s.receive f.reply f.time = .more s') :
    ∃ p, f.Passes s.query p ∧
      ((∃ cursor, p.following? = some cursor ∧
          s' = { s.read p.items with cursor := cursor }) ∨
        (p.following? = none ∧ ∃ kind later, s.later = kind :: later ∧
          s' = inList s.query kind later)) := by
  cases hreply : f.reply with
  | failed why =>
      rw [hreply] at h
      simp only [receive] at h
      split at h <;> cases h
  | page p =>
      rw [hreply] at h
      have hhit := Fetch.hit?_page (q := s.query) hreply
      rcases receivePage_cases s p f.time with
        ⟨item, hfind, heq⟩ | ⟨hfind, hlate, heq⟩ | ⟨cursor, hfind, hlate, hnext, heq⟩ |
          ⟨hfind, hlate, hnext, heq⟩
      · cases heq.symm.trans h
      · cases heq.symm.trans h
      · cases heq.symm.trans h
        exact ⟨p, ⟨hreply, hhit.trans hfind, hlate⟩, Or.inl ⟨cursor, hnext, rfl⟩⟩
      · obtain ⟨kind, later, hlater, hs'⟩ := endOfList_more (heq.symm.trans h)
        rw [read_later] at hlater
        rw [read_query] at hs'
        exact ⟨p, ⟨hreply, hhit.trans hfind, hlate⟩,
          Or.inr ⟨hnext, kind, later, hlater, hs'⟩⟩

theorem receive_more_query {s s' : Search} {f : Fetch}
    (h : s.receive f.reply f.time = .more s') : s'.query = s.query := by
  obtain ⟨p, _, ⟨cursor, _, rfl⟩ | ⟨_, kind, later, _, rfl⟩⟩ := receive_more h
  · exact read_query s p.items
  · rfl

end Search

/-- The fetches that take a search from one state to another.  What comes back is free: any
source and any clock give such a list. -/
inductive Course : Next → List Fetch → Next → Prop
  | rest (n : Next) : Course n [] n
  | fetch (s : Search) (f : Fetch) {fs : List Fetch} {e : Next}
      (hrequest : f.request = s.needs) (h : Course (s.receive f.reply f.time) fs e) :
      Course (.more s) (f :: fs) e

/-- A source that hands out prepared replies one after the other, and then empty pages. -/
def Source.prepared : Source (List (Reply × Double))
  | [], _, _ => (.page ⟨[], none⟩, 0, [])
  | (reply, time) :: rest, _, _ => (reply, time, rest)

namespace Run

variable {σ : Type}

/-- The outcome of a run that ended without a failure. -/
def outcome? (r : Run) : Option Outcome :=
  r.result.bind Except.toOption

theorem result_of_outcome? {r : Run} {o : Outcome} (h : r.outcome? = some o) :
    r.result = some (.ok o) := by
  obtain ⟨ended, hresult, ho⟩ := Option.bind_eq_some_iff.mp h
  cases ended with
  | ok o' => rw [hresult, Option.some.inj ho]
  | error f => cases ho

/-- All that a run fetches, at most so many pages. -/
def fetches (source : Source σ) : Nat → σ → Next → List Fetch
  | pages + 1, state, .more s =>
    let (reply, now, state) := source state s.kind s.cursor
    ⟨s.kind, s.cursor, reply, now⟩ :: fetches source pages state (s.receive reply now)
  | _, _, _ => []

theorem fetches_more (source : Source σ) (pages : Nat) (state : σ) (s : Search) :
    fetches source (pages + 1) state (.more s) =
      ⟨s.kind, s.cursor, (source state s.kind s.cursor).1,
        (source state s.kind s.cursor).2.1⟩ ::
        fetches source pages (source state s.kind s.cursor).2.2
          (s.receive (source state s.kind s.cursor).1
            (source state s.kind s.cursor).2.1) :=
  rfl

theorem result_more (source : Source σ) (pages : Nat) (state : σ) (s : Search) :
    (ofNext source (pages + 1) state (.more s)).result =
      (ofNext source pages (source state s.kind s.cursor).2.2
        (s.receive (source state s.kind s.cursor).1
          (source state s.kind s.cursor).2.1)).result :=
  rfl

theorem fetched_ofNext (source : Source σ) (pages : Nat) (state : σ) (n : Next) :
    (ofNext source pages state n).fetched =
      (fetches source pages state n).map Fetch.request := by
  induction pages generalizing state n with
  | zero => cases n <;> rfl
  | succ pages ih =>
      cases n with
      | more s =>
          simp only [ofNext, fetchedBefore, fetches, List.map_cons, ih]
          rfl
      | ended o => rfl
      | gaveUp o why => rfl
      | failed f => rfl

/-- A run is a course: its fetches lead to how it ends. -/
theorem course_fetches (source : Source σ) (pages : Nat) (state : σ) (n : Next) :
    ∃ e, Course n (fetches source pages state n) e ∧
      (ofNext source pages state n).result = e.result? := by
  induction pages generalizing state n with
  | zero => cases n <;> exact ⟨_, .rest _, rfl⟩
  | succ pages ih =>
      cases n with
      | more s =>
          rw [fetches_more, result_more]
          obtain ⟨e, hcourse, hresult⟩ := ih (source state s.kind s.cursor).2.2
            (s.receive (source state s.kind s.cursor).1
              (source state s.kind s.cursor).2.1)
          exact ⟨e, .fetch s _ rfl hcourse, hresult⟩
      | ended o => exact ⟨_, .rest _, rfl⟩
      | gaveUp o why => exact ⟨_, .rest _, rfl⟩
      | failed f => exact ⟨_, .rest _, rfl⟩

end Run

/-- Fetches through lists: from a cursor of a list on, each page from the cursor that the page
before it named.  Only a page that names none is followed by the beginning of the next list. -/
inductive Walk : Kind → String → List Kind → List Fetch → Prop
  | last {kind : Kind} {cursor : String} {later : List Kind} (f : Fetch)
      (hrequest : f.request = (kind, cursor)) : Walk kind cursor later [f]
  | page {kind : Kind} {cursor next : String} {later : List Kind} {p : Page}
      {fs : List Fetch} (f : Fetch) (hrequest : f.request = (kind, cursor))
      (hreply : f.reply = .page p) (hnext : p.following? = some next)
      (h : Walk kind next later fs) : Walk kind cursor later (f :: fs)
  | list {kind next : Kind} {cursor : String} {later : List Kind} {p : Page}
      {fs : List Fetch} (f : Fetch) (hrequest : f.request = (kind, cursor))
      (hreply : f.reply = .page p) (hnext : p.following? = none)
      (h : Walk next "" later fs) : Walk kind cursor (next :: later) (f :: fs)

/-- Fetches through lists of the given kinds, from the beginning of the first one on. -/
def WalkThrough : List Kind → List Fetch → Prop
  | [], fs => fs = []
  | kind :: later, fs => Walk kind "" later fs

/-- Whether a page that ends its list came back. -/
def Fetch.EndsList (f : Fetch) : Prop :=
  ∃ p, f.reply = .page p ∧ p.following? = none

/-- Another list is only asked for after the last page of the first one. -/
theorem Walk.endsList_before {kind : Kind} {cursor : String} {later : List Kind}
    {fs : List Fetch} (hwalk : Walk kind cursor later fs) {before after : List Fetch}
    {f : Fetch} (hfs : fs = before ++ f :: after) (hkind : f.kind ≠ kind) :
    ∃ g ∈ before, g.kind = kind ∧ g.EndsList := by
  induction hwalk generalizing before with
  | last g hrequest =>
      have hfirst : g = f ∧ before = [] := by
        cases before with
        | nil => exact ⟨(List.cons.inj hfs).1, rfl⟩
        | cons b rest => simp at hfs
      exact absurd (hfirst.1 ▸ congrArg Prod.fst hrequest) hkind
  | page g hrequest hreply hnext _ ih =>
      cases before with
      | nil => exact absurd ((List.cons.inj hfs).1 ▸ congrArg Prod.fst hrequest) hkind
      | cons b rest =>
          obtain ⟨e, hmem, hends⟩ := ih (List.cons.inj hfs).2 hkind
          exact ⟨e, List.mem_cons_of_mem b hmem, hends⟩
  | list g hrequest hreply hnext _ _ =>
      cases before with
      | nil => exact absurd ((List.cons.inj hfs).1 ▸ congrArg Prod.fst hrequest) hkind
      | cons b rest =>
          obtain rfl : g = b := (List.cons.inj hfs).1
          exact ⟨g, List.mem_cons_self, congrArg Prod.fst hrequest, _, hreply, hnext⟩

namespace Course

theorem eq_of_nil {n e : Next} (h : Course n [] e) : n = e := by
  cases h
  rfl

/-- Only a search that goes on asks for a page. -/
theorem eq_more {n e : Next} {f : Fetch} {fs : List Fetch} (h : Course n (f :: fs) e) :
    ∃ s, n = .more s ∧ f.request = s.needs ∧ Course (s.receive f.reply f.time) fs e := by
  cases h with
  | fetch s f hrequest h => exact ⟨s, rfl, hrequest, h⟩

/-- A course passes through the state in which each of its fetches was asked for. -/
theorem split {n e : Next} {before after : List Fetch} {f : Fetch}
    (h : Course n (before ++ f :: after) e) :
    ∃ s, Course n before (.more s) ∧ f.request = s.needs ∧
      Course (s.receive f.reply f.time) after e := by
  induction before generalizing n with
  | nil =>
      obtain ⟨s, rfl, hrequest, h⟩ := h.eq_more
      exact ⟨s, .rest _, hrequest, h⟩
  | cons g rest ih =>
      obtain ⟨t, rfl, hrequest, h⟩ := h.eq_more
      obtain ⟨s, hbefore, hneeds, hafter⟩ := ih h
      exact ⟨s, .fetch t g hrequest hbefore, hneeds, hafter⟩

/-- What every step of a search keeps holds wherever a course of it stands. -/
theorem keeps {P : Search → Prop}
    (hstep : ∀ (s s' : Search) (f : Fetch), P s → s.receive f.reply f.time = .more s' → P s')
    {s t : Search} {fs : List Fetch} (hs : P s) (h : Course (.more s) fs (.more t)) : P t := by
  induction fs generalizing s with
  | nil =>
      cases h.eq_of_nil
      exact hs
  | cons f rest ih =>
      obtain ⟨s, hs', hrequest, h⟩ := h.eq_more
      cases hs'
      -- From any other state no course leads on to one that waits for a page.
      cases hnext : s.receive f.reply f.time with
      | more s' =>
          rw [hnext] at h
          exact ih (hstep s s' f hs hnext) h
      | ended o => rw [hnext] at h; cases rest <;> cases h
      | gaveUp o why => rw [hnext] at h; cases rest <;> cases h
      | failed why => rw [hnext] at h; cases rest <;> cases h

/-- A course that has not ended yet is still about the same query. -/
theorem query_eq {s t : Search} {fs : List Fetch} (h : Course (.more s) fs (.more t)) :
    t.query = s.query := by
  apply h.keeps (P := fun u => u.query = s.query) _ rfl
  intro u u' f hu hnext
  exact (Search.receive_more_query hnext).trans hu

/-- The fetches of a search that ends walk through its lists. -/
theorem walk {s : Search} {fs : List Fetch} {e : Next} (h : Course (.more s) fs e)
    (hend : ∀ t, e ≠ .more t) : Walk s.kind s.cursor s.later fs := by
  induction fs generalizing s with
  | nil => exact absurd h.eq_of_nil.symm (hend s)
  | cons f rest ih =>
      obtain ⟨s, hs, hrequest, h⟩ := h.eq_more
      cases hs
      cases rest with
      | nil => exact .last f hrequest
      | cons g rest =>
          obtain ⟨s', hnext, hrequest', h⟩ := h.eq_more
          have hwalk := ih (.fetch s' g hrequest' h)
          obtain ⟨p, hpasses, ⟨cursor, hcursor, rfl⟩ |
            ⟨hcursor, kind, later, hlater, rfl⟩⟩ := Search.receive_more hnext
          · have hwalk : Walk (s.read p.items).kind cursor (s.read p.items).later
                (g :: rest) := hwalk
            rw [Search.read_kind, Search.read_later] at hwalk
            exact .page f hrequest hpasses.1 hcursor hwalk
          · rw [hlater]
            exact .list f hrequest hpasses.1 hcursor hwalk

end Course

end AlertRelay.Channel
