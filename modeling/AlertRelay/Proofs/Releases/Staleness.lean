import AlertRelay.Proofs.Releases.Scene

/-!
How old may be what callers are told about releases.

What is remembered about a project was replied by the database to a query about that project, and
counts from that reply on for a time (`Scene.Backed`); whatever happens keeps that up
(`Scene.Backed.goes`).  Main statement: what a caller is told was replied to his own query just
then, or to a query about his project so recently that it still counts, and entries of other
projects do not matter to him (`told_what_is_recent`).
-/

namespace AlertRelay.Attachment.Releases

open ExpiringMap Integration
open Channel (place getElem?_place mem_place)

/-- How long it may be that the database said whether a project has releases, in milliseconds. -/
def lifetime (hasReleases : Bool) : ℚ :=
  if hasReleases then 3600000 else 60000

theorem releasesTtl_eq (hasReleases : Bool) :
    releasesTtl hasReleases = .finite (lifetime hasReleases) := by
  cases hasReleases with
  | true => decide +kernel
  | false => decide +kernel

theorem releasesKey_injective : Function.Injective releasesKey := by
  intro p q h
  exact String.append_right_inj _ |>.mp h

/-- A reply tells whether a project has releases: it was made to a query about the project, and its
rows say so. -/
structure Reply.Tells (r : Reply) (projectId : String) (hasReleases : Bool) : Prop where
  query : r.query = releasesQuery projectId
  answer : ∃ rows, r.answer = .ok rows ∧ tellsReleases rows = hasReleases

/-- A reply is recent enough for the caller at a place to be told something at a time: it is made to
his own query just then, or it was made to any query and still counts. -/
def Reply.RecentFor (r : Reply) (i : Nat) (hasReleases : Bool) (now : Double) : Prop :=
  ∃ s t : ℚ, r.time = .finite s ∧ now = .finite t ∧ s ≤ t ∧
    (r.caller = i ∧ s = t ∨ t - s < lifetime hasReleases)

/-- A reply backs an entry of a project: it tells what the entry holds, and the entry counts from
the reply on for as long as it should. -/
structure Reply.Backs (r : Reply) (projectId : String) (e : Expiring Bool) : Prop where
  told : r.Tells projectId e.value
  expiresAt : e.expiresAt = r.time.add (releasesTtl e.value)

/-- An entry that has not expired is backed by a recent reply. -/
theorem Reply.Backs.recentFor {r : Reply} {projectId : String} {e : Expiring Bool} {now : Double}
    (h : r.Backs projectId e) (hfinite : r.time.isFinite = true) (hpast : r.time.le now = true)
    (hnow : now.isExact = true) (hlive : Expired now e = false) (i : Nat) :
    r.RecentFor i e.value now := by
  obtain ⟨s, hs⟩ := Double.exists_eq_finite_of_isFinite hfinite
  obtain ⟨t, rfl⟩ := Double.exists_eq_finite_of_isFinite (Double.isFinite_of_isExact hnow)
  have hexpires : e.expiresAt = (Double.finite s).add (.finite (lifetime e.value)) := by
    rw [h.expiresAt, hs, releasesTtl_eq]
  have hbefore : (Double.finite t).lt e.expiresAt = true := by
    have hne : e.expiresAt ≠ .nan := by
      rw [hexpires]
      exact Double.add_ne_nan rfl nofun
    rw [Double.lt_eq_not_le (Double.ne_nan_of_isFinite (Double.isFinite_of_isExact hnow)) hne]
    exact congrArg Bool.not hlive
  rw [hexpires] at hbefore
  have hlt : t < s + lifetime e.value := Double.lt_of_lt_add hnow hbefore
  have hle : s ≤ t := by
    rw [hs] at hpast
    exact of_decide_eq_true hpast
  refine ⟨s, t, hs, rfl, hle, Or.inr ?_⟩
  linarith

/-- A reply to his own query is recent enough for a caller who goes on with it. -/
theorem Reply.recentFor_self {r : Reply} {now : Double} (hnow : now.isExact = true)
    (htime : r.time = now) (b : Bool) : r.RecentFor r.caller b now := by
  obtain ⟨t, rfl⟩ := Double.exists_eq_finite_of_isFinite (Double.isFinite_of_isExact hnow)
  exact ⟨t, t, htime, rfl, le_refl t, Or.inl ⟨rfl, rfl⟩⟩

theorem isExact_of_forward {now : Double} {moves : List Move} (h : forward now moves = true) :
    now.isExact = true := by
  cases moves with
  | nil => exact h
  | cons m later =>
      simp only [forward, Bool.and_eq_true] at h
      exact h.1.1

namespace Scene

variable {config : Config} {s s' : Scene}

/-- What a move may do to a scene in which callers wait for nothing but their queries. -/
inductive Goes (s : Scene) : Scene → Prop
  /-- Nothing. -/
  | idle : Goes s s
  /-- Time passes. -/
  | clock (time : Double) : Goes s { s with world := { s.world with clock := time } }
  /-- Somebody asks, and is told what is remembered. -/
  | told {projectId : String} {e : Expiring Bool}
      (hentry : s.world.memory.releases.entry? (releasesKey projectId) = some e)
      (hlive : Expired s.world.clock e = false) :
      Goes s { s with
        callers := place s.callers.length ⟨projectId, .ended (.ok e.value)⟩ s.callers }
  /-- Somebody asks, and the database is queried. -/
  | queried {projectId : String} {w : World} (hclock : w.clock = s.world.clock)
      (hreleases : w.memory.releases =
        (s.world.memory.releases.read s.world.clock (releasesKey projectId)).2) :
      Goes s { s with
        world := w
        callers := place s.callers.length
          ⟨projectId, .querying (releasesQuery projectId) (onward projectId)⟩ s.callers }
  /-- A query fails. -/
  | failed {i : Nat} {projectId : String} (hi : i ≤ s.callers.length) (thrown : Value) :
      Goes s ⟨s.world, place i ⟨projectId, .ended (.error (.foreign thrown))⟩ s.callers,
        s.replies ++ [⟨i, releasesQuery projectId, .error thrown, s.world.clock⟩]⟩
  /-- The database replies. -/
  | replied {i : Nat} {projectId : String} {w : World} (hi : i ≤ s.callers.length)
      (rows : List Database.Row) (hclock : w.clock = s.world.clock)
      (hreleases : w.memory.releases = s.world.memory.releases.set s.world.clock
        (releasesKey projectId) (tellsReleases rows) (releasesTtl (tellsReleases rows))) :
      Goes s ⟨w, place i ⟨projectId, .ended (.ok (tellsReleases rows))⟩ s.callers,
        s.replies ++ [⟨i, releasesQuery projectId, .ok rows, s.world.clock⟩]⟩
  /-- Something else happens. -/
  | elsewhere {w : World} (hclock : w.clock = s.world.clock)
      (hreleases : w.memory.releases = s.world.memory.releases) : Goes s { s with world := w }

/-- Callers wait for nothing but the replies to their queries. -/
def Waiting (s : Scene) : Prop :=
  ∀ projectId q next, ⟨projectId, .querying q next⟩ ∈ s.callers →
    q = releasesQuery projectId ∧ next = onward projectId

/-- With a reply the caller who waits for it goes on. -/
theorem step_reply {i : Nat} {projectId : String} {q : Database.Query}
    {next : Except Value (List Database.Row) → Program Bool}
    (h : s.callers[i]? = some ⟨projectId, .querying q next⟩)
    (answer : Except Value (List Database.Row)) :
    s.step config (.reply i answer) =
      ⟨((next answer).turn s.world).2,
        place i ⟨projectId, ((next answer).turn s.world).1⟩ s.callers,
        s.replies ++ [⟨i, q, answer, s.world.clock⟩]⟩ := by
  simp only [step, h]

theorem goes_step (config : Config) (h : s.Waiting) (m : Move) : s.Goes (s.step config m) := by
  cases m with
  | ask projectId =>
      rcases turn_hasReleases config projectId s.world with
        ⟨e, hentry, hlive, hturn⟩ | ⟨_, w, hturn, hclock, hreleases⟩
      · simp only [step, hturn]
        exact .told hentry hlive
      · simp only [step, hturn]
        exact .queried hclock hreleases
  | clock time => exact .clock time
  | reply i answer =>
      by_cases hwaits : ∃ projectId q next, s.callers[i]? = some ⟨projectId, .querying q next⟩
      · obtain ⟨projectId, q, next, hi⟩ := hwaits
        obtain ⟨rfl, rfl⟩ := h _ q next (List.mem_of_getElem? hi)
        have hplace := Nat.le_of_lt (List.getElem?_eq_some_iff.mp hi).1
        rw [step_reply hi]
        cases answer with
        | error thrown => exact .failed hplace thrown
        | ok rows => exact .replied hplace rows rfl rfl
      · have hidle : s.step config (.reply i answer) = s := by
          simp only [step]
          split
          · next hi => exact absurd ⟨_, _, _, hi⟩ hwaits
          · rfl
        rw [hidle]
        exact .idle
  | elsewhere w => exact .elsewhere rfl rfl

/-- Time passes in a scene as moves let it. -/
theorem clock_step (config : Config) (s : Scene) (m : Move) :
    (s.step config m).world.clock = m.time s.world.clock := by
  cases m with
  | ask projectId => exact Program.clock_turn _ _
  | clock time => rfl
  | reply i answer =>
      simp only [step]
      split
      · exact Program.clock_turn _ _
      · rfl
  | elsewhere w => rfl

/-- Replies are never taken back, and new ones come now. -/
theorem Goes.replies (h : s.Goes s') :
    ∃ new : List Reply, s'.replies = s.replies ++ new ∧ ∀ r ∈ new, r.time = s.world.clock := by
  cases h with
  | failed hi thrown =>
      refine ⟨_, rfl, ?_⟩
      intro r hr
      rw [List.mem_singleton.mp hr]
  | replied hi rows hclock hreleases =>
      refine ⟨_, rfl, ?_⟩
      intro r hr
      rw [List.mem_singleton.mp hr]
  | _ => exact ⟨[], (List.append_nil _).symm, nofun⟩

/-- Callers still wait for nothing else when one of them waits for nothing but his reply. -/
theorem Waiting.place (h : s.Waiting) {i : Nat} {c : Caller}
    (hcallers : s'.callers = place i c s.callers)
    (hc : ∀ q next, c.stand = .querying q next →
      q = releasesQuery c.projectId ∧ next = onward c.projectId) : s'.Waiting := by
  intro projectId q next hmem
  rw [hcallers] at hmem
  rcases mem_place hmem with rfl | hold
  · exact hc q next rfl
  · exact h projectId q next hold

theorem Goes.waiting (h : s.Goes s') (hwaiting : s.Waiting) : s'.Waiting := by
  cases h with
  | told hentry hlive => exact hwaiting.place rfl nofun
  | queried hclock hreleases =>
      apply hwaiting.place rfl
      intro q next hquerying
      cases hquerying
      exact ⟨rfl, rfl⟩
  | failed hi thrown => exact hwaiting.place rfl nofun
  | replied hi rows hclock hreleases => exact hwaiting.place rfl nofun
  | _ => exact hwaiting

theorem Goes.keys_nodup (h : s.Goes s') (hkeys : s.world.memory.releases.keys.Nodup) :
    s'.world.memory.releases.keys.Nodup := by
  cases h with
  | queried hclock hreleases =>
      rw [hreleases]
      exact keys_nodup_read hkeys _ _
  | replied hi rows hclock hreleases =>
      rw [hreleases]
      exact keys_nodup_set hkeys _ _ _ _
  | elsewhere hclock hreleases =>
      rw [hreleases]
      exact hkeys
  | _ => exact hkeys

/-- An entry of a project was there before, or is backed by a reply to a query about the project;
what is stored about one project is never found under another. -/
theorem Goes.entry_cases (h : s.Goes s') (hkeys : s.world.memory.releases.keys.Nodup)
    {projectId : String} {e : Expiring Bool}
    (he : s'.world.memory.releases.entry? (releasesKey projectId) = some e) :
    s.world.memory.releases.entry? (releasesKey projectId) = some e ∨
      ∃ r ∈ s'.replies, r.Backs projectId e := by
  cases h with
  | queried hclock hreleases =>
      rw [hreleases] at he
      exact .inl (entry?_of_read he)
  | @replied i asked w hi rows hclock hreleases =>
      rw [hreleases] at he
      by_cases hsame : projectId = asked
      · subst hsame
        rw [entry?_set_self] at he
        cases he
        refine Or.inr ⟨_, List.mem_append_right _ List.mem_cons_self, ?_⟩
        exact ⟨⟨rfl, rows, rfl, rfl⟩, rfl⟩
      · have hother : releasesKey projectId ≠ releasesKey asked := by
          intro hkey
          exact hsame (releasesKey_injective hkey)
        exact .inl (entry?_of_set hkeys hother he)
  | elsewhere hclock hreleases =>
      rw [hreleases] at he
      exact .inl he
  | _ => exact .inl he

/-- A scene in which every entry of a project is backed by a reply that came before now. -/
structure Backed (s : Scene) : Prop where
  waiting : s.Waiting
  keys : s.world.memory.releases.keys.Nodup
  now : s.world.clock.isExact = true
  past : ∀ r ∈ s.replies, r.time.isFinite = true ∧ r.time.le s.world.clock = true
  entries : ∀ projectId e, s.world.memory.releases.entry? (releasesKey projectId) = some e →
    ∃ r ∈ s.replies, r.Backs projectId e

theorem Backed.start {w : World} (hnow : w.clock.isExact = true) : (start w).Backed where
  waiting := nofun
  keys := List.nodup_nil
  now := hnow
  past := nofun
  entries := nofun

/-- Entries stay backed whatever happens, as time goes on. -/
theorem Backed.goes (h : s.Backed) (hgoes : s.Goes s')
    (hle : s.world.clock.le s'.world.clock = true) (hnow : s'.world.clock.isExact = true) :
    s'.Backed := by
  obtain ⟨new, hreplies, hnew⟩ := hgoes.replies
  refine ⟨hgoes.waiting h.waiting, hgoes.keys_nodup h.keys, hnow, ?_, ?_⟩
  · intro r hr
    rw [hreplies] at hr
    rcases List.mem_append.mp hr with hr | hr
    · obtain ⟨hfinite, htime⟩ := h.past r hr
      exact ⟨hfinite, Double.le_trans htime hle⟩
    · rw [hnew r hr]
      exact ⟨Double.isFinite_of_isExact h.now, hle⟩
  · intro projectId e he
    rcases hgoes.entry_cases h.keys he with hold | hbacked
    · obtain ⟨r, hr, hbacks⟩ := h.entries projectId e hold
      refine ⟨r, ?_, hbacks⟩
      rw [hreplies]
      exact List.mem_append_left new hr
    · exact hbacked

theorem Backed.step (h : s.Backed) {m : Move}
    (hle : s.world.clock.le (m.time s.world.clock) = true)
    (hnow : (m.time s.world.clock).isExact = true) : (s.step config m).Backed := by
  rw [← clock_step config s m] at hle hnow
  exact h.goes (goes_step config h.waiting m) hle hnow

/-- Entries are backed after any moves with which time goes on. -/
theorem Backed.play {moves later : List Move} (h : s.Backed)
    (hforward : forward s.world.clock (moves ++ later) = true) :
    (s.play config moves).Backed ∧
      forward (s.play config moves).world.clock later = true := by
  induction moves generalizing s with
  | nil => exact ⟨h, hforward⟩
  | cons m moves ih =>
      simp only [List.cons_append, forward, Bool.and_eq_true] at hforward
      obtain ⟨⟨_, hle⟩, hrest⟩ := hforward
      have hclock := clock_step config s m
      apply ih (h.step hle (isExact_of_forward hrest))
      rwa [hclock]

/-- Who is told something only now is the caller with whom something happened. -/
theorem told?_place {i j : Nat} {c : Caller} {projectId : String} {b : Bool}
    (hcallers : s'.callers = place i c s.callers) (hi : i ≤ s.callers.length)
    (hbefore : s.told? j = none) (hafter : s'.told? j = some (projectId, b)) :
    j = i ∧ c.projectId = projectId ∧ c.told? = some b := by
  unfold told? at hbefore hafter
  rw [hcallers, getElem?_place hi] at hafter
  by_cases hj : j = i
  · rw [if_pos hj, Option.bind_some, Option.map_eq_some_iff] at hafter
    obtain ⟨value, hvalue, hpair⟩ := hafter
    cases hpair
    exact ⟨hj, rfl, hvalue⟩
  · rw [if_neg hj, hbefore] at hafter
    cases hafter

/-- Whoever is told something is told what a reply told that is recent enough for him. -/
theorem Goes.told_recently (hgoes : s.Goes s') (h : s.Backed)
    {i : Nat} {projectId : String} {b : Bool}
    (hbefore : s.told? i = none) (hafter : s'.told? i = some (projectId, b)) :
    ∃ r ∈ s'.replies, r.Tells projectId b ∧ r.RecentFor i b s'.world.clock := by
  have hchanged : s'.callers ≠ s.callers := by
    intro hcallers
    unfold told? at hbefore hafter
    rw [hcallers, hbefore] at hafter
    cases hafter
  cases hgoes with
  | told hentry hlive =>
      obtain ⟨_, rfl, htold⟩ := told?_place rfl (Nat.le_refl _) hbefore hafter
      cases htold
      obtain ⟨r, hr, hbacks⟩ := h.entries _ _ hentry
      obtain ⟨hfinite, hpast⟩ := h.past r hr
      exact ⟨r, hr, hbacks.told, hbacks.recentFor hfinite hpast h.now hlive i⟩
  | queried hclock hreleases =>
      obtain ⟨_, _, htold⟩ := told?_place rfl (Nat.le_refl _) hbefore hafter
      cases htold
  | failed hi thrown =>
      obtain ⟨_, _, htold⟩ := told?_place rfl hi hbefore hafter
      cases htold
  | replied hi rows hclock hreleases =>
      obtain ⟨rfl, rfl, htold⟩ := told?_place rfl hi hbefore hafter
      cases htold
      refine ⟨_, List.mem_append_right _ List.mem_cons_self, ⟨rfl, rows, rfl, rfl⟩, ?_⟩
      rw [hclock]
      exact Reply.recentFor_self h.now rfl _
  | _ => exact absurd rfl hchanged

end Scene

/-- Nobody is told anything stale about releases.  Callers ask about any projects, the database
replies to their queries or fails them in any order, time goes on, and anything else may happen on
the server.  Whoever is told something with a move is told what the database replied to a query
about his project: to his own just then, or to anybody's less than an hour ago if there are
releases, and less than a minute ago if there are none.  A caller is told what is replied to his
query; if it fails, he fails, and nothing at all is remembered.  What a caller does when he asks
does not depend on what is remembered about other projects. -/
theorem told_what_is_recent (config : Config) (w : World) {before : List Move} {m : Move}
    (h : forward w.clock (before ++ [m]) = true) :
    let s := (Scene.start w).play config before
    let s' := s.step config m
    (∀ i projectId b, s.told? i = none → s'.told? i = some (projectId, b) →
      ∃ r ∈ s'.replies, r.Tells projectId b ∧ r.RecentFor i b s'.world.clock) ∧
    (∀ i projectId q next, s.callers[i]? = some ⟨projectId, .querying q next⟩ →
      (∀ rows, m = .reply i (.ok rows) → s'.told? i = some (projectId, tellsReleases rows)) ∧
      ∀ thrown, m = .reply i (.error thrown) →
        s'.callers[i]? = some ⟨projectId, .ended (.error (.foreign thrown))⟩ ∧
          s'.world = s.world) ∧
    ∀ (projectId : String) (w₁ w₂ : World), w₁.clock = w₂.clock →
      (∀ key, (∀ other, key = releasesKey other → other = projectId) →
        w₁.memory.releases.entry? key = w₂.memory.releases.entry? key) →
      ((hasReleases config projectId).turn w₁).1 = ((hasReleases config projectId).turn w₂).1 := by
  intro s s'
  obtain ⟨hbacked, _⟩ := Scene.Backed.play (Scene.Backed.start (isExact_of_forward h)) h
  refine ⟨?_, ?_, ?_⟩
  · intro i projectId b hbefore hafter
    exact (Scene.goes_step config hbacked.waiting m).told_recently hbacked hbefore hafter
  · intro i projectId q next hi
    obtain ⟨_, rfl⟩ := hbacked.waiting projectId q next (List.mem_of_getElem? hi)
    have hplace := Nat.le_of_lt (List.getElem?_eq_some_iff.mp hi).1
    constructor
    · rintro rows rfl
      have hs' : s' = _ := Scene.step_reply hi (.ok rows)
      unfold Scene.told?
      rw [hs', getElem?_place hplace, if_pos rfl]
      rfl
    · rintro thrown rfl
      have hs' : s' = _ := Scene.step_reply hi (.error thrown)
      rw [hs', getElem?_place hplace, if_pos rfl]
      exact ⟨rfl, rfl⟩
  · intro projectId w₁ w₂ hclock hentries
    apply stand_hasReleases_congr config projectId hclock
    apply hentries
    intro other hkey
    exact (releasesKey_injective hkey).symm

/-- A reply that says whether there are releases. -/
def existsReply (b : Bool) : Except Value (List Database.Row) :=
  .ok [.ofFields [("exists", .bool b)]]

/-- Two callers ask about one project, and the database replies to the later one first, and to the
earlier one the opposite.  The query of a third one, about another project, fails. -/
def overlap : List Move :=
  [.ask "7", .ask "7", .ask "8", .clock 1000, .reply 1 (existsReply true), .clock 2000,
    .reply 2 (.error .null), .reply 0 (existsReply false), .clock 61999]

/-- Just before a minute is over, somebody is told what was replied last. -/
theorem told_what_is_recent_overlap :
    let s := (Scene.start (.blank 0)).play Channel.hurried overlap
    let s' := s.step Channel.hurried (.ask "7")
    forward 0 (overlap ++ [.ask "7"]) = true ∧
      (List.range 4).map s.told? = [some ("7", false), some ("7", true), none, none] ∧
      s'.told? 3 = some ("7", false) ∧
      ∃ r ∈ s'.replies, r.Tells "7" false ∧ r.RecentFor 3 false s'.world.clock := by
  intro s s'
  have hforward : forward (World.blank 0).clock (overlap ++ [.ask "7"]) = true := by
    decide +kernel
  have hbefore : s.told? 3 = none := by decide +kernel
  have hafter : s'.told? 3 = some ("7", false) := by decide +kernel
  refine ⟨hforward, by decide +kernel, hafter, ?_⟩
  exact (told_what_is_recent Channel.hurried (.blank 0) hforward).1 3 "7" false hbefore hafter

end AlertRelay.Attachment.Releases
