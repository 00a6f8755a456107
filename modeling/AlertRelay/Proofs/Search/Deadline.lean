import AlertRelay.Proofs.Number.Order
import AlertRelay.Proofs.Search.Fetches
import Mathlib.Tactic.Linarith

/-!
The deadline of a search.

The deadline is read at one place only, after a page that left the search open.  So a search
with a later deadline does the same as the one with the earlier deadline until that one times
out (`Search.receive_withDeadline`), and what the longer time buys is an answer instead of a
timeout (`resolve_withDeadline`).  The deadline also bounds the work: where every page takes
some time, the time left bounds the pages fetched, whatever the pages say (`resolve_bounded`).
-/

namespace AlertRelay.Channel

/-- The same query with another deadline. -/
def Query.withDeadline (later : Double) (q : Query) : Query :=
  { q with deadline := later }

namespace Search

/-- The same search with another deadline. -/
def withDeadline (later : Double) (s : Search) : Search :=
  { s with query := s.query.withDeadline later }

variable (later : Double)

theorem remember_withDeadline (s : Search) (item : Item) :
    (s.withDeadline later).remember item = (s.remember item).withDeadline later := by
  have hmatches :
      (s.withDeadline later).matchesDisplayName item = s.matchesDisplayName item := rfl
  unfold remember
  rw [hmatches]
  by_cases hshown : s.matchesDisplayName item = true
  · rw [if_pos hshown, if_pos hshown]
    have hcandidate : (s.withDeadline later).candidate = s.candidate := rfl
    rw [hcandidate]
    cases s.candidate <;> rfl
  · rw [if_neg hshown, if_neg hshown]

theorem read_withDeadline (s : Search) (items : List Item) :
    (s.withDeadline later).read items = (s.read items).withDeadline later := by
  induction items generalizing s with
  | nil => rfl
  | cons item rest ih =>
      have hnext := ih (s.remember item)
      rw [← remember_withDeadline] at hnext
      exact hnext

end Search

/-- The same state of a search with another deadline. -/
def Next.withDeadline (later : Double) : Next → Next
  | .more s => .more (s.withDeadline later)
  | .ended o => .ended o
  | .gaveUp o why => .gaveUp o why
  | .failed f => .failed f

theorem Search.start_withDeadline (later : Double) (q : Query) (kinds : List Kind) :
    start (q.withDeadline later) kinds = (start q kinds).withDeadline later := by
  cases kinds <;> rfl

namespace Search

variable {later : Double}

/-- The end of a list does not look at the deadline. -/
theorem endOfList_withDeadline (s : Search) :
    (s.withDeadline later).endOfList = s.endOfList.withDeadline later := by
  obtain ⟨query, kind, lists, cursor, candidate, ambiguous⟩ := s
  unfold endOfList
  cases ambiguous with
  | true => rfl
  | false =>
      cases candidate with
      | some id => rfl
      | none => cases lists <;> rfl

/-- What arrives makes the same of a search with a later deadline, unless it makes the search
with the earlier one time out. -/
theorem receive_withDeadline {s : Search} (hle : s.query.deadline.le later = true) (r : Reply)
    (now : Double) :
    (s.withDeadline later).receive r now = (s.receive r now).withDeadline later ∨
      ∃ kind, s.receive r now = .ended (.timedOut kind) := by
  cases r with
  | failed why =>
      refine Or.inl ?_
      simp only [receive]
      by_cases hapi : why.isApiError = true
      · rw [if_pos hapi, if_pos hapi]
        rfl
      · rw [if_neg hapi, if_neg hapi]
        rfl
  | page p =>
      have hnames : (s.withDeadline later).matchesName = s.matchesName := rfl
      have hread : p.items.foldl remember s = s.read p.items := rfl
      have hread' : p.items.foldl remember (s.withDeadline later) =
          (s.read p.items).withDeadline later :=
        read_withDeadline later s p.items
      have hdeadline : (s.read p.items).query.deadline = s.query.deadline := by
        rw [read_query]
      have hdeadline' : ((s.read p.items).withDeadline later).query.deadline = later := rfl
      simp only [receive, receivePage, hnames, hread, hread', hdeadline, hdeadline']
      cases hfind : p.items.find? s.matchesName with
      | some item => exact Or.inl rfl
      | none =>
          by_cases hlate : s.query.deadline.lt now = true
          · refine Or.inr ⟨s.kind, ?_⟩
            simp only [hlate, if_true, read_kind]
          · have hintime : ¬later.lt now = true := by
              intro hpast
              exact hlate (Double.lt_of_le_of_lt hle hpast)
            refine Or.inl ?_
            simp only [if_neg hlate, if_neg hintime]
            cases p.next.filter (· != "") with
            | some cursor => rfl
            | none => exact endOfList_withDeadline (s.read p.items)

end Search

namespace Run

variable {σ : Type} {source : Source σ} {state next : σ} {s : Search} {reply : Reply}
  {now : Double}

/-- A page more is one fetch, and then the rest of the run. -/
theorem ofNext_fetch (hsource : source state s.kind s.cursor = (reply, now, next))
    (pages : Nat) :
    ofNext source (pages + 1) state (.more s) =
        (ofNext source pages next (s.receive reply now)).fetchedBefore s.needs ∧
      fetches source (pages + 1) state (.more s) =
        ⟨s.kind, s.cursor, reply, now⟩ :: fetches source pages next (s.receive reply now) := by
  constructor <;> simp only [ofNext, fetches, hsource]

/-- A search that has ended fetches nothing, however many pages it may. -/
theorem ofNext_of_result? {n : Next} {r : Except Failure Outcome} (h : n.result? = some r)
    (source : Source σ) (pages more : Nat) (state : σ) :
    ofNext source more state n = ofNext source pages state n ∧
      (ofNext source pages state n).result = some r ∧ fetches source pages state n = [] := by
  cases n with
  | more s => cases h
  | ended o => cases pages <;> cases more <;> exact ⟨rfl, h, rfl⟩
  | gaveUp o why => cases pages <;> cases more <;> exact ⟨rfl, h, rfl⟩
  | failed f => cases pages <;> cases more <;> exact ⟨rfl, h, rfl⟩

variable (source) {later : Double}

/-- A run with a later deadline is the run with the earlier one, unless that one times out; and
then it begins with the same fetches. -/
theorem ofNext_withDeadline (pages : Nat) (state : σ) {n : Next}
    (hle : ∀ s, n = .more s → s.query.deadline.le later = true) :
    (ofNext source pages state (n.withDeadline later) = ofNext source pages state n ∧
        fetches source pages state (n.withDeadline later) = fetches source pages state n) ∨
      ((∃ kind, (ofNext source pages state n).result = some (.ok (.timedOut kind))) ∧
        fetches source pages state n <+: fetches source pages state (n.withDeadline later)) := by
  induction pages generalizing state n with
  | zero => cases n <;> exact Or.inl ⟨rfl, rfl⟩
  | succ pages ih =>
      cases n with
      | more s =>
          obtain ⟨reply, now, next, hsource⟩ :
              ∃ reply now next, source state s.kind s.cursor = (reply, now, next) :=
            ⟨_, _, _, rfl⟩
          obtain ⟨hrun, hfetches⟩ := ofNext_fetch hsource pages
          obtain ⟨hrun', hfetches'⟩ := ofNext_fetch (s := s.withDeadline later) hsource pages
          have hneeds : (s.withDeadline later).needs = s.needs := rfl
          simp only [Next.withDeadline, hrun, hfetches, hrun', hfetches', hneeds]
          rcases Search.receive_withDeadline (hle s rfl) reply now with hsame | ⟨kind, hend⟩
          · rw [hsame]
            rcases ih next (n := s.receive reply now) (by
                intro t ht
                rw [Search.receive_more_query (f := ⟨s.kind, s.cursor, reply, now⟩) ht]
                exact hle s rfl) with ⟨heq, hfs⟩ | ⟨htimedOut, hprefix⟩
            · refine Or.inl ⟨?_, ?_⟩
              · rw [heq]
              · rw [hfs]
                rfl
            · exact Or.inr ⟨htimedOut, List.cons_prefix_cons.mpr ⟨rfl, hprefix⟩⟩
          · -- The earlier deadline has passed; whatever comes later, this fetch was made.
            obtain ⟨_, hresult, hnone⟩ := ofNext_of_result?
              (n := s.receive reply now) (r := .ok (.timedOut kind)) (by rw [hend]; rfl)
              source pages pages next
            refine Or.inr ⟨⟨kind, hresult⟩, ?_⟩
            rw [hnone]
            exact List.cons_prefix_cons.mpr ⟨rfl, List.nil_prefix⟩
      | ended o => exact Or.inl ⟨rfl, rfl⟩
      | gaveUp o why => exact Or.inl ⟨rfl, rfl⟩
      | failed f => exact Or.inl ⟨rfl, rfl⟩

/-- A run that ended is not changed by leave to fetch more. -/
theorem ofNext_mono {pages more : Nat} (hmore : pages ≤ more) {state : σ} {n : Next}
    {r : Except Failure Outcome} (h : (ofNext source pages state n).result = some r) :
    ofNext source more state n = ofNext source pages state n ∧
      fetches source more state n = fetches source pages state n := by
  induction pages generalizing more state n with
  | zero =>
      cases n with
      | more s => cases h
      | ended o => cases more <;> exact ⟨rfl, rfl⟩
      | gaveUp o why => cases more <;> exact ⟨rfl, rfl⟩
      | failed f => cases more <;> exact ⟨rfl, rfl⟩
  | succ pages ih =>
      cases more with
      | zero => cases hmore
      | succ more =>
          cases n with
          | more s =>
              obtain ⟨reply, now, next, hsource⟩ :
                  ∃ reply now next, source state s.kind s.cursor = (reply, now, next) :=
                ⟨_, _, _, rfl⟩
              obtain ⟨hrun, hfetches⟩ := ofNext_fetch hsource pages
              obtain ⟨hrun', hfetches'⟩ := ofNext_fetch hsource more
              rw [hrun] at h
              obtain ⟨heq, hfs⟩ := ih (Nat.le_of_succ_le_succ hmore) h
              rw [hrun, hfetches, hrun', hfetches', heq, hfs]
              exact ⟨rfl, rfl⟩
          | ended o => exact ⟨rfl, rfl⟩
          | gaveUp o why => exact ⟨rfl, rfl⟩
          | failed f => exact ⟨rfl, rfl⟩

/-- A run makes no more fetches than it may. -/
theorem length_fetches_le (pages : Nat) (state : σ) (n : Next) :
    (fetches source pages state n).length ≤ pages := by
  induction pages generalizing state n with
  | zero => cases n <;> exact Nat.le_refl 0
  | succ pages ih =>
      cases n with
      | more s =>
          rw [fetches_more, List.length_cons]
          exact Nat.succ_le_succ (ih _ _)
      | ended o => exact Nat.zero_le _
      | gaveUp o why => exact Nat.zero_le _
      | failed f => exact Nat.zero_le _

end Run

/-- A source whose lists never end: every page takes three milliseconds and names the same
cursor.  From the third page on there is a channel. -/
def Source.slow : Source Int := fun clock _ _ =>
  (.page ⟨if clock < 6 then [] else [⟨"C1", "general", none, []⟩], some "again"⟩,
    .finite (clock + 3 : Int), clock + 3)

/-- With a later deadline a search makes the same fetches and ends in the same way as before,
unless it timed out before; and it only times out if it did so before, after fetches that it
makes again.  This holds of every source, whatever it answers and when. -/
theorem resolve_withDeadline {σ : Type} (source : Source σ) (kinds : List Kind) (pages : Nat)
    (state : σ) (q : Query) {later : Double} (hle : q.deadline.le later = true) :
    (∀ r, (resolve source kinds pages state q).result = some r →
      (∀ kind, r ≠ .ok (.timedOut kind)) → ∀ more, pages ≤ more →
        resolve source kinds more state (q.withDeadline later) =
            resolve source kinds pages state q ∧
          Run.fetches source more state (Search.start (q.withDeadline later) kinds) =
            Run.fetches source pages state (Search.start q kinds)) ∧
    (∀ kind, (resolve source kinds pages state (q.withDeadline later)).result =
        some (.ok (.timedOut kind)) →
      ∃ earlier, ∀ more, pages ≤ more →
        (resolve source kinds more state q).result = some (.ok (.timedOut earlier)) ∧
          (resolve source kinds more state q).fetched <+:
            (resolve source kinds pages state (q.withDeadline later)).fetched) := by
  have hstart : ∀ s, Search.start q kinds = .more s → s.query.deadline.le later = true := by
    intro s hs
    cases kinds with
    | nil => cases hs
    | cons kind lists =>
        cases hs
        exact hle
  unfold resolve
  rw [Search.start_withDeadline]
  constructor
  · intro r hr hanswer more hmore
    obtain ⟨hrun, hfetches⟩ := Run.ofNext_mono source hmore hr
    rcases Run.ofNext_withDeadline source more state hstart with
      ⟨heq, hfs⟩ | ⟨⟨kind, htimedOut⟩, _⟩
    · rw [hrun] at heq
      rw [hfetches] at hfs
      exact ⟨heq, hfs⟩
    · rw [hrun, hr] at htimedOut
      exact absurd (Option.some.inj htimedOut) (hanswer kind)
  · intro kind hr
    rcases Run.ofNext_withDeadline source pages state hstart with
      ⟨heq, hfs⟩ | ⟨⟨earlier, htimedOut⟩, hprefix⟩
    · refine ⟨kind, ?_⟩
      intro more hmore
      rw [heq] at hr ⊢
      rw [(Run.ofNext_mono source hmore hr).1]
      exact ⟨hr, List.prefix_refl _⟩
    · refine ⟨earlier, ?_⟩
      intro more hmore
      rw [(Run.ofNext_mono source hmore htimedOut).1]
      refine ⟨htimedOut, ?_⟩
      rw [Run.fetched_ofNext, Run.fetched_ofNext]
      exact hprefix.map Fetch.request

theorem resolve_withDeadline_slow :
    Double.le 8 12 = true ∧ Double.le 5 8 = true ∧
      ((resolve Source.slow Kind.searchOrder 3 0 ⟨"general", 8, "token"⟩).result =
          some (.ok (.found .channel "C1")) ∧
        resolve Source.slow Kind.searchOrder 9 0 ⟨"general", 12, "token"⟩ =
          resolve Source.slow Kind.searchOrder 3 0 ⟨"general", 8, "token"⟩) ∧
      (resolve Source.slow Kind.searchOrder 9 0 ⟨"random", 8, "token"⟩).result =
          some (.ok (.timedOut .channel)) ∧
        ∃ earlier, (resolve Source.slow Kind.searchOrder 9 0 ⟨"random", 5, "token"⟩).result =
          some (.ok (.timedOut earlier)) := by
  have hfound := Run.result_of_outcome? (r := resolve Source.slow Kind.searchOrder 3 0
    ⟨"general", 8, "token"⟩) (o := .found .channel "C1") (by decide +kernel)
  have htimedOut := Run.result_of_outcome? (r := resolve Source.slow Kind.searchOrder 9 0
    ⟨"random", 8, "token"⟩) (o := .timedOut .channel) (by decide +kernel)
  have hanswer : ∀ kind, (Except.ok (Outcome.found .channel "C1") : Except Failure Outcome) ≠
      .ok (.timedOut kind) := by
    intro kind h
    cases h
  have hle : Double.le 8 12 = true := by decide +kernel
  have hle' : Double.le 5 8 = true := by decide +kernel
  obtain ⟨hsame, _⟩ := (resolve_withDeadline Source.slow Kind.searchOrder 3 0
    ⟨"general", 8, "token"⟩ hle).1 _ hfound hanswer 9 (by decide)
  obtain ⟨earlier, hearlier⟩ := (resolve_withDeadline Source.slow Kind.searchOrder 9 0
    ⟨"random", 5, "token"⟩ hle').2 .channel htimedOut
  exact ⟨hle, hle', ⟨hfound, hsame⟩, htimedOut, earlier, (hearlier 9 (Nat.le_refl 9)).1⟩

section Budget

variable {σ : Type}

/-- Every fetch takes a source at least some whole number of milliseconds of its clock, and an
answer has arrived when the clock stands where the next fetch finds it, or earlier. -/
def Source.Ticks (source : Source σ) (clock : σ → Int) (step : Int) : Prop :=
  ∀ state kind cursor, ∃ now : Int, (source state kind cursor).2.1 = .finite now ∧
    clock state + step ≤ now ∧ now ≤ clock (source state kind cursor).2.2

variable {source : Source σ} {clock : σ → Int} {step deadline : Int}

/-- A search ends by the fetch that must come after the deadline. -/
theorem Run.result_of_ticks (hticks : source.Ticks clock step) {pages : Nat} {state : σ}
    {s : Search} (hdeadline : s.query.deadline = .finite deadline)
    (hpages : deadline < clock state + pages * step) (hpos : 0 < pages) :
    ∃ r, (ofNext source pages state (.more s)).result = some r := by
  induction pages generalizing state s with
  | zero => cases hpos
  | succ pages ih =>
      obtain ⟨now, hnow, hstep, hclock⟩ := hticks state s.kind s.cursor
      rw [result_more, hnow]
      cases hnext : s.receive (source state s.kind s.cursor).1 (.finite now) with
      | more t =>
          have hmore : s.receive (Fetch.mk s.kind s.cursor (source state s.kind s.cursor).1
              (.finite now)).reply (.finite now) = .more t := hnext
          obtain ⟨p, hpasses, _⟩ := Search.receive_more hmore
          -- The page came in time, so there is time left that the next fetch will use up.
          have hintime : now ≤ deadline := by
            have hlate := hpasses.2.2
            simpa [Fetch.late, hdeadline, Double.lt] using hlate
          have hquery := Search.receive_more_query hmore
          have hrest : deadline < clock (source state s.kind s.cursor).2.2 + pages * step := by
            push_cast at hpages
            linarith
          refine ih (hquery ▸ hdeadline) hrest ?_
          by_contra hnone
          have hzero : pages = 0 := Nat.eq_zero_of_not_pos hnone
          subst hzero
          push_cast at hpages
          linarith
      | ended o => cases pages <;> exact ⟨_, rfl⟩
      | gaveUp o why => cases pages <;> exact ⟨_, rfl⟩
      | failed f => cases pages <;> exact ⟨_, rfl⟩

/-- Where every fetch takes at least a whole number of milliseconds, a search with a finite
deadline ends, and the time left when it begins bounds the pages it fetches of all its lists
together.  Cursors that never end or that repeat do not matter. -/
theorem resolve_bounded (hticks : source.Ticks clock step) (hstep : 1 ≤ step)
    (kinds : List Kind) (state : σ) {q : Query} (hdeadline : q.deadline = .finite deadline) :
    ∃ run : Run, (∃ r, run.result = some r) ∧
      (run.fetched.length : Int) ≤ max 0 ((deadline - clock state) / step) + 1 ∧
      ∀ pages : Nat, max 0 ((deadline - clock state) / step) + 1 ≤ pages →
        resolve source kinds pages state q = run := by
  obtain ⟨budget, hbudget⟩ := Int.eq_ofNat_of_zero_le
    (le_max_left 0 ((deadline - clock state) / step))
  rw [hbudget]
  have hend : ∃ r, (resolve source kinds (budget + 1) state q).result = some r := by
    cases kinds with
    | nil => exact ⟨_, rfl⟩
    | cons kind lists =>
        have hleft : deadline < clock state + ((budget + 1 : Nat) : Int) * step := by
          have hpos : 0 < step := lt_of_lt_of_le Int.zero_lt_one hstep
          have hle := le_max_right 0 ((deadline - clock state) / step)
          rw [hbudget] at hle
          have htime : deadline - clock state < ((budget + 1 : Nat) : Int) * step :=
            calc deadline - clock state
                < ((deadline - clock state) / step + 1) * step :=
                  Int.lt_ediv_add_one_mul_self _ hpos
              _ ≤ ((budget + 1 : Nat) : Int) * step :=
                  Int.mul_le_mul_of_nonneg_right (by exact_mod_cast Int.add_le_add_right hle 1)
                    (Int.le_of_lt hpos)
          linarith
        exact Run.result_of_ticks (s := Search.inList q kind lists) hticks hdeadline hleft
          (Nat.succ_pos budget)
  obtain ⟨r, hr⟩ := hend
  refine ⟨resolve source kinds (budget + 1) state q, ⟨r, hr⟩, ?_, ?_⟩
  · unfold resolve
    rw [Run.fetched_ofNext, List.length_map]
    exact_mod_cast Run.length_fetches_le source (budget + 1) state (Search.start q kinds)
  · intro pages hpages
    exact (Run.ofNext_mono source (by exact_mod_cast hpages) hr).1

end Budget

theorem slow_ticks : Source.slow.Ticks id 3 := by
  intro clock kind cursor
  exact ⟨clock + 3, rfl, Int.le_refl _, Int.le_refl _⟩

theorem resolve_bounded_slow :
    ∃ run : Run, (∃ r, run.result = some r) ∧ (run.fetched.length : Int) ≤ 4 ∧
      ∀ pages : Nat, (4 : Int) ≤ pages →
        resolve Source.slow Kind.searchOrder pages 0 ⟨"random", .finite (10 : Int), "token"⟩ =
          run := by
  have hdeadline : (⟨"random", .finite (10 : Int), "token"⟩ : Query).deadline =
      .finite (10 : Int) := rfl
  exact resolve_bounded slow_ticks (by decide) Kind.searchOrder 0 hdeadline

end AlertRelay.Channel
