import AlertRelay.Proofs.ExpiringMap.History
import AlertRelay.Proofs.Lookup.Jobs

/-!
How long jobs are kept.

The jobs of a scene are what a chronicle of calls has left: reads and writes at times, in the
order of the clock (`Scene.Chronicle`).  Of each deferred look-up a happening does one of three
things to what was stored last under its job (`Scene.Fate`): nothing, or the look-up is new and
its job is stored, or the look-up ends and the job is stored anew if it still counts.  Main
statement: what polls of a job are answered, from its creation on (`polled_of_lifetime`).
-/

namespace AlertRelay.Channel

open ExpiringMap

/-- The time that a move lets come. -/
def Move.time? : Move → Option Double
  | .clock time => some time
  | _ => none

/-- Moves with which time goes on from a time, and never back. -/
structure Forward (clock : Double) (moves : List Move) : Prop where
  finite : ∀ t ∈ clock :: moves.filterMap Move.time?, t.isFinite = true
  ordered : (clock :: moves.filterMap Move.time?).Pairwise fun t u => t.le u = true

namespace Forward

variable {clock : Double} {moves : List Move}

theorem isFinite (h : Forward clock moves) : clock.isFinite = true :=
  h.finite clock List.mem_cons_self

theorem cons {m : Move} (h : Forward clock (m :: moves)) :
    clock.le (m.time?.getD clock) = true ∧ Forward (m.time?.getD clock) moves := by
  cases htime : m.time? with
  | none =>
      have htimes : (m :: moves).filterMap Move.time? = moves.filterMap Move.time? := by
        rw [List.filterMap_cons, htime]
      obtain ⟨hfinite, hordered⟩ := h
      rw [htimes] at hfinite hordered
      exact ⟨Double.le_refl_of_isFinite (hfinite clock List.mem_cons_self), hfinite, hordered⟩
  | some time =>
      have htimes : (m :: moves).filterMap Move.time? = time :: moves.filterMap Move.time? := by
        rw [List.filterMap_cons, htime]
      obtain ⟨hfinite, hordered⟩ := h
      rw [htimes] at hfinite hordered
      obtain ⟨hclock, hrest⟩ := List.pairwise_cons.mp hordered
      refine ⟨hclock time List.mem_cons_self, ?_, hrest⟩
      intro t ht
      exact hfinite t (List.mem_cons_of_mem clock ht)

theorem left {first rest : List Move} (h : Forward clock (first ++ rest)) :
    Forward clock first := by
  have hsublist : List.Sublist (clock :: first.filterMap Move.time?)
      (clock :: (first ++ rest).filterMap Move.time?) := by
    rw [List.filterMap_append]
    exact (List.sublist_append_left _ _).cons_cons clock
  refine ⟨?_, h.ordered.sublist hsublist⟩
  intro t ht
  exact h.finite t (hsublist.subset ht)

end Forward

/-- The job of a look-up is pending as long as the look-up goes on. -/
theorem Deferred.Follows.status_eq_pending_iff {config : Config} {l : Deferred}
    (h : l.Follows config) : (l.job config).status = .pending ↔ l.stand.result? = none := by
  constructor
  · intro hpending
    by_contra hended
    obtain ⟨r, hr⟩ := Option.ne_none_iff_exists'.mp fun hnone => hended (h.goesOn_iff.mp hnone)
    obtain ⟨_, outcome, rfl⟩ := h.ends r hr
    rw [job_of_ok hr] at hpending
    cases hpending
  · intro hopen
    rw [job_of_none (h.goesOn_iff.mpr hopen)]

namespace Scene

variable {config : Config} {s s' : Scene}

/-- Only a move that lets time pass changes the clock. -/
theorem clock_step (config : Config) (s : Scene) (m : Move) :
    (s.step config m).world.clock = m.time?.getD s.world.clock := by
  cases m with
  | demand d => exact Program.clock_turn _ _
  | clock time => rfl
  | caller i a =>
      simp only [step]
      cases s.callers[i]? with
      | none => rfl
      | some c =>
          simp only
          cases s.goOn? c.stand a with
          | none => rfl
          | some p => exact Program.clock_turn p s.world
  | deferred i a =>
      simp only [step]
      cases s.deferred[i]? with
      | none => rfl
      | some l =>
          simp only
          cases s.goOn? l.stand a with
          | none => rfl
          | some p => exact Program.clock_turn p s.world
  | callback i =>
      simp only [step]
      cases s.callbacks[i]? with
      | none => rfl
      | some jobId => rfl

/-- Time goes on from where some of the moves have led. -/
theorem forward_play (config : Config) {first rest : List Move}
    (h : Forward s.world.clock (first ++ rest)) :
    Forward (s.play config first).world.clock rest := by
  induction first generalizing s with
  | nil => exact h
  | cons m first ih =>
      obtain ⟨_, hnext⟩ := h.cons
      rw [← clock_step config] at hnext
      exact ih hnext

theorem play_append (config : Config) (s : Scene) (first rest : List Move) :
    s.play config (first ++ rest) = (s.play config first).play config rest := by
  simp only [play, List.foldl_append]

/-- The jobs of a scene are what calls have left that were made in the order of the clock, none
of them later than now. -/
structure Chronicle (config : Config) (s : Scene) (calls : List (Call Job)) : Prop where
  jobs : s.world.memory.jobs = afterAll config.jobTtl calls
  inOrder : InOrder config.jobTtl calls
  past : ∀ c ∈ calls, c.time.le s.world.clock = true
  now : s.world.clock.isFinite = true

namespace Chronicle

variable {calls : List (Call Job)}

/-- A chronicle goes on as it is as long as no job is touched. -/
theorem wait (h : s.Chronicle config calls) (hle : s.world.clock.le s'.world.clock = true)
    (hnow : s'.world.clock.isFinite = true)
    (hjobs : s'.world.memory.jobs = s.world.memory.jobs) : s'.Chronicle config calls where
  jobs := hjobs.trans h.jobs
  inOrder := h.inOrder
  past c hc := Double.le_trans (h.past c hc) hle
  now := hnow

/-- A chronicle goes on with a call that stores for the usual time, if it stores. -/
theorem call (h : s.Chronicle config calls) {operation : Operation Job}
    (httl : operation.ttl? = none) (hclock : s'.world.clock = s.world.clock)
    (hjobs : s'.world.memory.jobs =
      Call.after config.jobTtl s.world.memory.jobs ⟨s.world.clock, operation⟩) :
    s'.Chronicle config (calls ++ [⟨s.world.clock, operation⟩]) where
  jobs := by
    rw [afterAll_concat, ← h.jobs]
    exact hjobs
  inOrder := by
    refine h.inOrder.concat h.past h.now ?_
    rw [httl]
    exact nofun
  past := by
    intro c hc
    rw [hclock]
    rcases List.mem_append.mp hc with hc | hc
    · exact h.past c hc
    · rw [List.mem_singleton.mp hc]
      exact Double.le_refl_of_isFinite h.now
  now := by
    rw [hclock]
    exact h.now

/-- A job is found as it was stored last, as long as that counts. -/
theorem read_eq (h : s.Chronicle config calls) (jobId : String) :
    (s.world.memory.jobs.read s.world.clock jobId).1 =
      timedValue? config.jobTtl calls s.world.clock jobId := by
  rw [h.jobs]
  exact (Mirrors.afterAll config.jobTtl calls).get?_eq (Double.ne_nan_of_isFinite h.now) h.past
    (fun key stored => h.inOrder.expiresAt_ne_nan) jobId

/-- When a look-up ends, its job is stored with the outcome if it is still found, and otherwise it
is only read. -/
theorem complete_cases (h : s.Chronicle config calls) (jobId : String) (outcome : JobOutcome) :
    (timedValue? config.jobTtl calls s.world.clock jobId = none ∧
        (s.world.memory.jobs.complete s.world.clock config.jobTtl jobId outcome).2 =
          Call.after config.jobTtl s.world.memory.jobs ⟨s.world.clock, .get jobId⟩) ∨
      ∃ job, timedValue? config.jobTtl calls s.world.clock jobId = some job ∧
        (s.world.memory.jobs.complete s.world.clock config.jobTtl jobId outcome).2 =
          Call.after config.jobTtl s.world.memory.jobs
            ⟨s.world.clock, .set jobId ⟨jobId, job.name, .settled outcome⟩ none⟩ := by
  rw [← h.read_eq]
  unfold Jobs.complete Call.after
  rcases read_cases s.world.memory.jobs s.world.clock jobId with
    ⟨e, _, _, hread⟩ | ⟨jobs, hread, _, _⟩
  · refine Or.inr ⟨e.value, ?_⟩
    rw [hread]
    exact ⟨rfl, rfl⟩
  · refine Or.inl ?_
    simp only [hread, and_self]

end Chronicle

/-- What was stored last under a job when its look-up ends at a time: it is stored anew, unless it
does not count any more. -/
def renewed (config : Config) (now : Double) (job : Job) (stored : Stored Job) : Stored Job :=
  if now.lt stored.expiresAt then ⟨job, now, config.jobTtl⟩ else stored

/-- What a happening does to the look-up at a place, and to what was stored last under its job. -/
inductive Fate (config : Config) (s s' : Scene) (calls calls' : List (Call Job)) (k : Nat) : Prop
  /-- Nothing. -/
  | kept
      (hjob : s'.deferred[k]?.map (Deferred.job config) =
        s.deferred[k]?.map (Deferred.job config))
      (hstored : ∀ l, s.deferred[k]? = some l →
        lastStored? config.jobTtl calls' l.jobId = lastStored? config.jobTtl calls l.jobId)
  /-- It is new, and its job is stored. -/
  | created {l : Deferred} (hbefore : s.deferred[k]? = none) (hafter : s'.deferred[k]? = some l)
      (hpending : (l.job config).status = .pending)
      (hstored : lastStored? config.jobTtl calls' l.jobId =
        some ⟨l.job config, s.world.clock, config.jobTtl⟩)
  /-- It ends, and its job is stored anew if it still counts. -/
  | ended {l l' : Deferred} {outcome : JobOutcome} (hbefore : s.deferred[k]? = some l)
      (hafter : s'.deferred[k]? = some l') (hclock : s'.world.clock = s.world.clock)
      (hpending : l.job config = ⟨l.jobId, l.name, .pending⟩)
      (hsettled : l'.job config = ⟨l.jobId, l.name, .settled outcome⟩)
      (hstored : ∀ stored, lastStored? config.jobTtl calls l.jobId = some stored →
        stored.value.name = l.name →
        lastStored? config.jobTtl calls' l.jobId =
          some (renewed config s.world.clock (l'.job config) stored))

/-- A happening adds to the chronicle what decides the fate of every look-up. -/
theorem Goes.fate {calls : List (Call Job)} (hgoes : s.Goes config s')
    (haccounted : s.Accounted config) (h : s.Chronicle config calls)
    (hle : s.world.clock.le s'.world.clock = true) (hnow : s'.world.clock.isFinite = true) :
    ∃ calls', s'.Chronicle config calls' ∧ ∀ k, Fate config s s' calls calls' k := by
  cases hgoes with
  | idle => exact ⟨calls, h, fun k => .kept rfl fun _ _ => rfl⟩
  | clock time => exact ⟨calls, h.wait hle hnow rfl, fun k => .kept rfl fun _ _ => rfl⟩
  | caller hi hfree hkept htold hdrained =>
      exact ⟨calls, h.wait hle hnow hkept.jobs, fun k => .kept rfl fun _ _ => rfl⟩
  | @deferral i organizationId integrationId name jobId workspace st w' hi hfree hdeferral htold =>
      refine ⟨calls ++ [⟨s.world.clock, .set jobId ⟨jobId, name, .pending⟩ none⟩],
        h.call rfl hdeferral.clock hdeferral.jobs, ?_⟩
      intro k
      rcases Nat.lt_trichotomy k s.deferred.length with hlt | rfl | hgt
      · refine .kept ?_ ?_
        · rw [List.getElem?_append_left hlt]
        · intro l hl
          have hne := haccounted.ne_of_next (List.mem_of_getElem? hl)
          rw [← hdeferral.jobId_eq] at hne
          exact lastStored?_set_of_ne _ _ _ hne _ _
      · refine .created (List.getElem?_eq_none (Nat.le_refl _)) List.getElem?_concat_length ?_ ?_
        · rfl
        · exact lastStored?_set_self _ _ _ _ _ _
      · have hnone : s.deferred[k]? = none := List.getElem?_eq_none (Nat.le_of_lt hgt)
        refine .kept ?_ ?_
        · rw [hnone, List.getElem?_eq_none]
          rw [List.length_append]
          exact hgt
        · intro l hl
          cases hnone.symm.trans hl
  | @poll i jobId st hi hfree htold =>
      refine ⟨calls ++ [⟨s.world.clock, .get jobId⟩], h.call rfl ?_ ?_, ?_⟩
      · rfl
      · rfl
      · intro k
        exact .kept rfl fun l _ => lastStored?_get _ _ _ _ _
  | @search i l g st w' hl hbefore hafter hkept =>
      refine ⟨calls, h.wait hle hnow hkept.jobs, ?_⟩
      intro k
      refine .kept ?_ fun _ _ => rfl
      have hi := (List.getElem?_eq_some_iff.mp hl).1
      simp only [getElem?_place (Nat.le_of_lt hi)]
      by_cases hk : k = i
      · rw [if_pos hk, hk, hl, Option.map_some, Option.map_some,
          Deferred.job_of_none hbefore, Deferred.job_of_none hafter]
        rfl
      · rw [if_neg hk]
  | @recording i l g st outcome w' hl hbefore hafter hrecording =>
      have hi := (List.getElem?_eq_some_iff.mp hl).1
      -- The look-ups at other places have other jobs.
      have hother : ∀ k l₀, k ≠ i → s.deferred[k]? = some l₀ → l₀.jobId ≠ l.jobId := by
        intro k l₀ hk hl₀ hjob
        exact hk (haccounted.eq_of_jobId hl₀ hl hjob)
      have hkept : ∀ k, k ≠ i → (place i (l.next g st) s.deferred)[k]? = s.deferred[k]? := by
        intro k hk
        rw [getElem?_place (Nat.le_of_lt hi), if_neg hk]
      have hself : (place i (l.next g st) s.deferred)[i]? = some (l.next g st) := by
        rw [getElem?_place (Nat.le_of_lt hi), if_pos rfl]
      have hsettled := Deferred.job_of_ok hafter
      rcases h.complete_cases l.jobId outcome with ⟨hnone, hjobs⟩ | ⟨job, hfound, hjobs⟩
      · refine ⟨calls ++ [⟨s.world.clock, .get l.jobId⟩],
          h.call rfl hrecording.clock (hrecording.jobs.trans hjobs), ?_⟩
        intro k
        by_cases hk : k = i
        · subst hk
          refine .ended hl hself hrecording.clock (Deferred.job_of_none hbefore) hsettled ?_
          intro stored hstored hname
          have hexpired : ¬s.world.clock.lt stored.expiresAt = true := by
            intro hlive
            rw [timedValue?_of_lastStored? hstored, if_pos hlive] at hnone
            cases hnone
          rw [lastStored?_get, hstored, renewed, if_neg hexpired]
        · refine .kept ?_ fun _ _ => lastStored?_get _ _ _ _ _
          rw [hkept k hk]
      · refine ⟨calls ++ [⟨s.world.clock,
          .set l.jobId ⟨l.jobId, job.name, .settled outcome⟩ none⟩],
          h.call rfl hrecording.clock (hrecording.jobs.trans hjobs), ?_⟩
        intro k
        by_cases hk : k = i
        · subst hk
          refine .ended hl hself hrecording.clock (Deferred.job_of_none hbefore) hsettled ?_
          intro stored hstored hname
          rw [timedValue?_of_lastStored? hstored, Option.ite_none_right_eq_some] at hfound
          obtain ⟨hlive, hvalue⟩ := hfound
          rw [lastStored?_set_self, renewed, if_pos hlive, hsettled, ← Option.some.inj hvalue,
            hname]
          rfl
        · refine .kept ?_ fun l₀ hl₀ => lastStored?_set_of_ne _ _ _ (hother k l₀ hk hl₀) _ _
          rw [hkept k hk]
  | callback hcallback => exact ⟨calls, h.wait hle hnow rfl, fun k => .kept rfl fun _ _ => rfl⟩

/-- The look-up at a place makes a job stand as it does, and this was stored last under it. -/
def Keeps (config : Config) (s : Scene) (k : Nat) (job : Job) (stored : Stored Job) : Prop :=
  ∃ calls l, s.Chronicle config calls ∧ s.deferred[k]? = some l ∧ l.job config = job ∧
    lastStored? config.jobTtl calls l.jobId = some stored

/-- What a poll is answered: the job that was stored last, as long as it counts. -/
theorem Keeps.polled_eq {k : Nat} {job : Job} {stored : Stored Job}
    (h : s.Keeps config k job stored) :
    s.polled config job.id = some (if s.world.clock.lt stored.expiresAt then
      .ok (.job stored.value) else .error (.missing .lookupJob)) := by
  obtain ⟨calls, l, hchronicle, _, rfl, hstored⟩ := h
  rw [Scene.polled_eq, hchronicle.read_eq]
  have hid : (l.job config).id = l.jobId := rfl
  rw [hid, timedValue?_of_lastStored? hstored]
  by_cases hlive : s.world.clock.lt stored.expiresAt = true
  · rw [if_pos hlive, if_pos hlive]
    rfl
  · rw [if_neg hlive, if_neg hlive]
    rfl

/-- With a happening a look-up stays as it is, and so does what was stored last under its job; or
it ends. -/
theorem Keeps.goes {k : Nat} {job : Job} {stored : Stored Job} (h : s.Keeps config k job stored)
    (hname : stored.value.name = job.name) (haccounted : s.Accounted config)
    (hgoes : s.Goes config s') (hle : s.world.clock.le s'.world.clock = true)
    (hnow : s'.world.clock.isFinite = true) :
    s'.Keeps config k job stored ∨
      job.status = .pending ∧ s'.world.clock = s.world.clock ∧ ∃ outcome,
        s'.Keeps config k ⟨job.id, job.name, .settled outcome⟩
          (renewed config s.world.clock ⟨job.id, job.name, .settled outcome⟩ stored) := by
  obtain ⟨calls, l, hchronicle, hl, rfl, hstored⟩ := h
  obtain ⟨calls', hchronicle', hfate⟩ := hgoes.fate haccounted hchronicle hle hnow
  cases hfate k with
  | kept hjob hkept =>
      rw [hl, Option.map_some, Option.map_eq_some_iff] at hjob
      obtain ⟨l', hl', hsame⟩ := hjob
      have hid : l'.jobId = l.jobId := congrArg Job.id hsame
      refine Or.inl ⟨calls', l', hchronicle', hl', hsame, ?_⟩
      rw [hid, hkept l hl]
      exact hstored
  | created hbefore _ _ _ => cases hbefore.symm.trans hl
  | @ended l₀ l' outcome hbefore hafter hclock hpending hsettled hrenewed =>
      cases hl.symm.trans hbefore
      have hid : l'.jobId = l.jobId := congrArg Job.id hsettled
      refine Or.inr ⟨by rw [hpending], hclock, outcome, calls', l', hchronicle', hafter,
        hsettled, ?_⟩
      rw [hid, hrenewed stored hstored hname, hsettled]
      rfl

/-- A look-up that is new is kept as its job stands, from now on. -/
theorem Goes.keeps_new {calls : List (Call Job)} (hgoes : s.Goes config s')
    (haccounted : s.Accounted config) (h : s.Chronicle config calls)
    (hle : s.world.clock.le s'.world.clock = true) (hnow : s'.world.clock.isFinite = true)
    {k : Nat} {l : Deferred} (hbefore : s.deferred[k]? = none)
    (hafter : s'.deferred[k]? = some l) :
    (l.job config).status = .pending ∧
      s'.Keeps config k (l.job config) ⟨l.job config, s.world.clock, config.jobTtl⟩ := by
  obtain ⟨calls', hchronicle, hfate⟩ := hgoes.fate haccounted h hle hnow
  cases hfate k with
  | kept hjob _ =>
      rw [hbefore, hafter] at hjob
      cases hjob
  | @created l' _ hafter' hpending hstored =>
      cases hafter.symm.trans hafter'
      exact ⟨hpending, calls', l, hchronicle, hafter, rfl, hstored⟩
  | ended hbefore' _ _ _ _ _ => cases hbefore.symm.trans hbefore'

/-- What every happening preserves as time goes on, a run of moves preserves with which time goes
on. -/
theorem Proper.forward_induction {P : Scene → Prop} (h : s.Proper config) (hs : P s)
    (hgoes : ∀ {s s' : Scene}, s.Proper config → P s → s.Goes config s' → s'.Proper config →
      s.world.clock.le s'.world.clock = true → s'.world.clock.isFinite = true → P s')
    {moves : List Move} (hforward : Forward s.world.clock moves) :
    (s.play config moves).Proper config ∧ P (s.play config moves) := by
  induction moves generalizing s with
  | nil => exact ⟨h, hs⟩
  | cons m moves ih =>
      obtain ⟨hstep, hproper⟩ := h.step m
      obtain ⟨hle, hrest⟩ := hforward.cons
      rw [← clock_step config] at hle hrest
      exact ih hproper (hgoes h hs hstep hproper hle hrest.isFinite) hrest

/-- The look-up of a job has been deferred. -/
def Knows (s : Scene) (jobId : String) : Prop :=
  ∃ l ∈ s.deferred, l.jobId = jobId

/-- The look-up of a job has ended. -/
def HasEnded (s : Scene) (jobId : String) : Prop :=
  ∃ l ∈ s.deferred, l.jobId = jobId ∧ l.stand.result?.isSome = true

instance (s : Scene) (jobId : String) : Decidable (s.Knows jobId) :=
  inferInstanceAs (Decidable (∃ l ∈ s.deferred, l.jobId = jobId))

instance (s : Scene) (jobId : String) : Decidable (s.HasEnded jobId) :=
  inferInstanceAs (Decidable (∃ l ∈ s.deferred, l.jobId = jobId ∧ l.stand.result?.isSome = true))

/-- A look-up has ended exactly if its job is not pending any more. -/
theorem Proper.hasEnded_iff (h : s.Proper config) (jobId : String) :
    s.HasEnded jobId ↔
      ∃ l ∈ s.deferred, l.jobId = jobId ∧ (l.job config).status ≠ .pending := by
  have hiff : ∀ l ∈ s.deferred,
      l.stand.result?.isSome = true ↔ (l.job config).status ≠ .pending := by
    intro l hl
    rw [ne_eq, (h.deferred l hl).status_eq_pending_iff]
    exact Option.isSome_iff_ne_none
  constructor
  · rintro ⟨l, hl, hjob, hended⟩
    exact ⟨l, hl, hjob, (hiff l hl).mp hended⟩
  · rintro ⟨l, hl, hjob, hended⟩
    exact ⟨l, hl, hjob, (hiff l hl).mpr hended⟩

/-- A look-up that has ended stays so. -/
theorem HasEnded.goes {jobId : String} (hended : s.HasEnded jobId) (h : s.Proper config)
    (hgoes : s.Goes config s') (h' : s'.Proper config) : s'.HasEnded jobId := by
  rw [h.hasEnded_iff] at hended
  rw [h'.hasEnded_iff]
  obtain ⟨l, hl, hjob, hstatus⟩ := hended
  obtain ⟨i, hi⟩ := List.mem_iff_getElem?.mp hl
  obtain ⟨l', hl', hcontinues⟩ := hgoes.grows i l hi
  obtain ⟨hid, _, hsame | hpending⟩ := @Deferred.Continues.job config l l' hcontinues
  · refine ⟨l', List.mem_of_getElem? hl', hid.trans hjob, ?_⟩
    rw [hsame]
    exact hstatus
  · exact absurd hpending hstatus

theorem HasEnded.play {jobId : String} (hended : s.HasEnded jobId) (h : s.Proper config)
    (moves : List Move) : (s.play config moves).HasEnded jobId := by
  induction moves generalizing s with
  | nil => exact hended
  | cons m moves ih =>
      obtain ⟨hgoes, hproper⟩ := h.step m
      exact ih (hended.goes h hgoes hproper) hproper

/-- As time goes on, a look-up stays as it is, and so does what was stored last under its job,
until it ends. -/
theorem Keeps.play {k : Nat} {job : Job} {stored : Stored Job} (h : s.Keeps config k job stored)
    (hname : stored.value.name = job.name) (hproper : s.Proper config)
    (haccounted : s.Accounted config) {moves : List Move}
    (hforward : Forward s.world.clock moves) :
    (s.play config moves).Proper config ∧ (s.play config moves).Accounted config ∧
      s.world.clock.le (s.play config moves).world.clock = true ∧
      ((s.play config moves).Keeps config k job stored ∨
        job.status = .pending ∧ (s.play config moves).HasEnded job.id) := by
  refine hproper.forward_induction (P := fun s' => s'.Accounted config ∧
      s.world.clock.le s'.world.clock = true ∧ (s'.Keeps config k job stored ∨
        job.status = .pending ∧ s'.HasEnded job.id))
    ⟨haccounted, Double.le_refl_of_isFinite hforward.isFinite, Or.inl h⟩ ?_ hforward
  rintro s₁ s₂ hproper₁ ⟨haccounted₁, hle₁, hcase⟩ hgoes hproper₂ hle hnow
  refine ⟨haccounted₁.goes hgoes, Double.le_trans hle₁ hle, ?_⟩
  rcases hcase with hkeeps | ⟨hpending, hended⟩
  · rcases hkeeps.goes hname haccounted₁ hgoes hle hnow with hkeeps | ⟨hpending, _, _, hkeeps⟩
    · exact Or.inl hkeeps
    · obtain ⟨_, l, _, hl, hjob, _⟩ := hkeeps
      refine Or.inr ⟨hpending, (hproper₂.hasEnded_iff job.id).mpr ?_⟩
      refine ⟨l, List.mem_of_getElem? hl, congrArg Job.id hjob, ?_⟩
      rw [hjob]
      exact nofun
  · exact Or.inr ⟨hpending, hended.goes hproper₁ hgoes hproper₂⟩

/-- What a run leads to from the start, as time goes on: jobs are accounted for, and there is a
chronicle of them. -/
theorem chronicle_play {ids : Nat → String} (hids : Function.Injective ids)
    (httl : config.jobTtl ≠ .nan) {clock : Double} {moves : List Move}
    (hforward : Forward clock moves) :
    ((start ids clock).play config moves).Proper config ∧
      ((start ids clock).play config moves).Accounted config ∧
      ∃ calls, ((start ids clock).play config moves).Chronicle config calls := by
  have hnone : (start ids clock).Chronicle config [] :=
    ⟨rfl, ⟨List.Pairwise.nil, nofun, httl, nofun⟩, nofun, hforward.isFinite⟩
  refine (proper_start config ids clock).forward_induction
    (P := fun s => s.Accounted config ∧ ∃ calls, s.Chronicle config calls)
    ⟨accounted_start config hids clock, [], hnone⟩ ?_ hforward
  rintro s s' _ ⟨haccounted, calls, hchronicle⟩ hgoes _ hle hnow
  obtain ⟨calls', hchronicle', _⟩ := hgoes.fate haccounted hchronicle hle hnow
  exact ⟨haccounted.goes hgoes, calls', hchronicle'⟩

/-- The look-up of a job that becomes known with a happening was not there before. -/
theorem Goes.new_of_knows (hgoes : s.Goes config s') {jobId : String} (hunknown : ¬s.Knows jobId)
    (hknown : s'.Knows jobId) : ∃ (k : Nat) (l : Deferred), s.deferred[k]? = none ∧
      s'.deferred[k]? = some l ∧ l.jobId = jobId := by
  obtain ⟨l, hl, hjob⟩ := hknown
  obtain ⟨k, hk⟩ := List.mem_iff_getElem?.mp hl
  refine ⟨k, l, ?_, hk, hjob⟩
  by_contra hbefore
  obtain ⟨l₀, hl₀⟩ := Option.ne_none_iff_exists'.mp hbefore
  obtain ⟨l', hl', _, _, rfl⟩ := hgoes.grows k l₀ hl₀
  cases hk.symm.trans hl'
  exact hunknown ⟨l₀, List.mem_of_getElem? hl₀, hjob⟩

/-- With the happening with which a look-up ends its job is stored anew, if it still counts. -/
theorem Keeps.goes_ended {k : Nat} {job : Job} {stored : Stored Job}
    (h : s.Keeps config k job stored) (hname : stored.value.name = job.name)
    (hpending : job.status = .pending) (haccounted : s.Accounted config)
    (hgoes : s.Goes config s') (hproper : s'.Proper config)
    (hle : s.world.clock.le s'.world.clock = true) (hnow : s'.world.clock.isFinite = true)
    (hended : s'.HasEnded job.id) :
    s'.world.clock = s.world.clock ∧ ∃ outcome,
      s'.Keeps config k ⟨job.id, job.name, .settled outcome⟩
        (renewed config s.world.clock ⟨job.id, job.name, .settled outcome⟩ stored) := by
  rcases h.goes hname haccounted hgoes hle hnow with hkeeps | ⟨_, hrenewed⟩
  · obtain ⟨_, l, _, hl, hjob, _⟩ := hkeeps
    obtain ⟨l', hl', hid, hstatus⟩ := (hproper.hasEnded_iff job.id).mp hended
    obtain ⟨k', hk'⟩ := List.mem_iff_getElem?.mp hl'
    have hsame : l.jobId = l'.jobId := (congrArg Job.id hjob).trans hid.symm
    cases (haccounted.goes hgoes).eq_of_jobId hl hk' hsame
    cases hl.symm.trans hk'
    rw [hjob] at hstatus
    exact absurd hpending hstatus
  · exact hrenewed

end Scene

/-- A run in which the look-up of a job is deferred and ends: what happens before it is deferred,
the move with which it is deferred, what happens meanwhile, and the move with which it ends. -/
structure Lifetime (config : Config) (s : Scene) (jobId : String) where
  before : List Move
  creation : Move
  meanwhile : List Move
  ending : Move
  forward : Forward s.world.clock (before ++ creation :: (meanwhile ++ [ending]))
  unknown : ¬(s.play config before).Knows jobId
  known : (s.play config (before ++ [creation])).Knows jobId
  goesOn : ¬(s.play config (before ++ creation :: meanwhile)).HasEnded jobId
  ends : (s.play config (before ++ creation :: (meanwhile ++ [ending]))).HasEnded jobId

namespace Lifetime

variable {config : Config} {s : Scene} {jobId : String} (t : Lifetime config s jobId)

/-- The scene after the job was made and then some more moves. -/
def during (moves : List Move) : Scene :=
  s.play config (t.before ++ t.creation :: moves)

/-- The scene after the look-up has ended and then some more moves. -/
def after (moves : List Move) : Scene :=
  (t.during (t.meanwhile ++ [t.ending])).play config moves

/-- The time at which the job was made. -/
def createdAt : Double :=
  (s.play config t.before).world.clock

/-- The time at which the look-up ended. -/
def endedAt : Double :=
  (t.during t.meanwhile).world.clock

theorem during_append (first rest : List Move) :
    t.during (first ++ rest) = (t.during first).play config rest := by
  unfold during
  rw [← List.cons_append, ← List.append_assoc, Scene.play_append]

theorem during_nil : t.during [] = (s.play config t.before).step config t.creation := by
  unfold during
  rw [Scene.play_append]
  rfl

/-- Time goes on after each of the moves up to the end of the look-up. -/
theorem forward_during {first rest : List Move} (h : first ++ rest = t.meanwhile ++ [t.ending]) :
    Forward (t.during first).world.clock rest := by
  have hmoves : t.before ++ t.creation :: (t.meanwhile ++ [t.ending]) =
      (t.before ++ t.creation :: first) ++ rest := by
    rw [← h, List.append_assoc, List.cons_append]
  have hforward := t.forward
  rw [hmoves] at hforward
  exact Scene.forward_play config hforward

section Start

variable {config : Config} {ids : Nat → String} {clock : Double} {jobId : String}
  (t : Lifetime config (.start ids clock) jobId)

/-- What is stored when the job is made. -/
def firstStored (name : String) : Stored Job :=
  ⟨⟨jobId, name, .pending⟩, t.createdAt, config.jobTtl⟩

/-- The job is stored when it is made. -/
theorem keeps_created (hids : Function.Injective ids) (httl : config.jobTtl ≠ .nan) :
    (t.during []).Proper config ∧ (t.during []).Accounted config ∧ ∃ k name,
      (t.during []).Keeps config k ⟨jobId, name, .pending⟩ (t.firstStored name) := by
  obtain ⟨hproper, haccounted, calls, hchronicle⟩ :=
    Scene.chronicle_play hids httl t.forward.left
  obtain ⟨hgoes, hproper'⟩ := hproper.step t.creation
  obtain ⟨hle, hrest⟩ := (Scene.forward_play config t.forward).cons
  rw [← Scene.clock_step config] at hle hrest
  have hknown : (t.during []).Knows jobId := t.known
  rw [t.during_nil] at hknown ⊢
  obtain ⟨k, l, hbefore, hafter, hjob⟩ := hgoes.new_of_knows t.unknown hknown
  obtain ⟨hpending, hkeeps⟩ :=
    hgoes.keeps_new haccounted hchronicle hle hrest.isFinite hbefore hafter
  have hjob' : l.job config = ⟨jobId, l.name, .pending⟩ := by
    rw [← hpending, ← hjob]
    rfl
  rw [hjob'] at hkeeps
  exact ⟨hproper', haccounted.goes hgoes, k, l.name, hkeeps⟩

variable {t} {k : Nat} {name : String}

/-- Until the look-up ends, the job stays as it was stored when it was made. -/
theorem keeps_during (hproper : (t.during []).Proper config)
    (haccounted : (t.during []).Accounted config)
    (hkeeps : (t.during []).Keeps config k ⟨jobId, name, .pending⟩ (t.firstStored name))
    {moves : List Move} (hmoves : moves <+: t.meanwhile) :
    (t.during moves).Proper config ∧ (t.during moves).Accounted config ∧
      (t.during moves).Keeps config k ⟨jobId, name, .pending⟩ (t.firstStored name) := by
  have hgoesOn : ¬(t.during t.meanwhile).HasEnded jobId := t.goesOn
  obtain ⟨rest, hrest⟩ := hmoves
  have hforward : Forward (t.during []).world.clock (moves ++ (rest ++ [t.ending])) := by
    apply t.forward_during
    rw [List.nil_append, ← hrest, List.append_assoc]
  have hduring : t.during moves = (t.during []).play config moves := t.during_append [] moves
  have hlater : t.during t.meanwhile = (t.during moves).play config rest := by
    rw [← hrest]
    exact t.during_append moves rest
  obtain ⟨hproper', haccounted', _, hcase⟩ := hkeeps.play rfl hproper haccounted hforward.left
  rw [← hduring] at hproper' haccounted' hcase
  refine ⟨hproper', haccounted', ?_⟩
  rcases hcase with hkept | ⟨_, hended⟩
  · exact hkept
  · -- What has ended stays so, up to where it is known to go on.
    rw [hlater] at hgoesOn
    exact absurd (hended.play hproper' rest) hgoesOn

/-- When the look-up ends, the job is stored anew if it still counts, and stays as it is. -/
theorem keeps_after (hproper : (t.during t.meanwhile).Proper config)
    (haccounted : (t.during t.meanwhile).Accounted config)
    (hkeeps : (t.during t.meanwhile).Keeps config k ⟨jobId, name, .pending⟩
      (t.firstStored name)) :
    ∃ outcome, ∀ moves, Forward t.endedAt moves →
      t.endedAt.le (t.after moves).world.clock = true ∧
        (t.after moves).Keeps config k ⟨jobId, name, .settled outcome⟩
          (Scene.renewed config t.endedAt ⟨jobId, name, .settled outcome⟩
            (t.firstStored name)) := by
  have hends : (t.during (t.meanwhile ++ [t.ending])).HasEnded jobId := t.ends
  have hending : t.during (t.meanwhile ++ [t.ending]) =
      (t.during t.meanwhile).step config t.ending :=
    t.during_append t.meanwhile [t.ending]
  obtain ⟨hgoes, hproper'⟩ := hproper.step t.ending
  have hforward : Forward (t.during t.meanwhile).world.clock [t.ending] := t.forward_during rfl
  obtain ⟨hle, hrest⟩ := hforward.cons
  rw [← Scene.clock_step config] at hle hrest
  rw [← hending] at hgoes hproper' hle hrest
  obtain ⟨hclock, outcome, hkeeps'⟩ :=
    hkeeps.goes_ended rfl rfl haccounted hgoes hproper' hle hrest.isFinite hends
  refine ⟨outcome, ?_⟩
  intro moves hmoves
  have hname : (Scene.renewed config t.endedAt ⟨jobId, name, .settled outcome⟩
      (t.firstStored name)).value.name = name := by
    unfold Scene.renewed
    split <;> rfl
  have hforward' : Forward (t.during (t.meanwhile ++ [t.ending])).world.clock moves := by
    rw [hclock]
    exact hmoves
  obtain ⟨_, _, hlater, hkept | ⟨hpending, _⟩⟩ :=
    hkeeps'.play hname hproper' (haccounted.goes hgoes) hforward'
  · rw [hclock] at hlater
    exact ⟨hlater, hkept⟩
  · cases hpending

end Start

end Lifetime

/-- How long a job is kept, whatever else is made, ends, is polled or is forgotten meanwhile.  As
long as its look-up goes on, polls are told that it is pending, until its time is over.  If the
look-up ends before that, all later polls are told the outcome, until the time is over that counts
from the end; otherwise no poll finds the job any more. -/
theorem polled_of_lifetime {config : Config} {ids : Nat → String}
    (hids : Function.Injective ids) (httl : config.jobTtl ≠ .nan) {clock : Double}
    {jobId : String} (t : Lifetime config (.start ids clock) jobId) :
    ∃ name outcome,
      (∃ l ∈ (t.after []).deferred, l.job config = ⟨jobId, name, .settled outcome⟩) ∧
      (∀ moves, moves <+: t.meanwhile →
        (t.during moves).polled config jobId = some
          (if (t.during moves).world.clock.lt (t.createdAt.add config.jobTtl) then
            .ok (.job ⟨jobId, name, .pending⟩)
          else .error (.missing .lookupJob))) ∧
      ∀ moves, Forward t.endedAt moves →
        (t.after moves).polled config jobId = some
          (if t.endedAt.lt (t.createdAt.add config.jobTtl) ∧
              (t.after moves).world.clock.lt (t.endedAt.add config.jobTtl) then
            .ok (.job ⟨jobId, name, .settled outcome⟩)
          else .error (.missing .lookupJob)) := by
  obtain ⟨hproper, haccounted, k, name, hkeeps⟩ := t.keeps_created hids httl
  obtain ⟨hproper', haccounted', hkeeps'⟩ :=
    Lifetime.keeps_during hproper haccounted hkeeps (List.prefix_refl t.meanwhile)
  obtain ⟨outcome, hafter⟩ := Lifetime.keeps_after hproper' haccounted' hkeeps'
  refine ⟨name, outcome, ?_, ?_, ?_⟩
  · have hfinite : Forward t.endedAt [t.ending] := t.forward_during rfl
    obtain ⟨_, _, l, _, hl, hjob, _⟩ := hafter [] hfinite.left
    exact ⟨l, List.mem_of_getElem? hl, hjob⟩
  · intro moves hmoves
    obtain ⟨_, _, hkept⟩ := Lifetime.keeps_during hproper haccounted hkeeps hmoves
    exact hkept.polled_eq
  · intro moves hforward
    obtain ⟨hlater, hkept⟩ := hafter moves hforward
    rw [hkept.polled_eq, Scene.renewed]
    by_cases hlive : t.endedAt.lt (t.createdAt.add config.jobTtl) = true
    · have hlive' : t.endedAt.lt (t.firstStored name).expiresAt = true := hlive
      rw [if_pos hlive']
      simp only [hlive, true_and]
      rfl
    · have hlive' : ¬t.endedAt.lt (t.firstStored name).expiresAt = true := hlive
      have hexpired : ¬(t.after moves).world.clock.lt (t.firstStored name).expiresAt = true := by
        intro hnow
        exact hlive' (Double.lt_of_le_of_lt hlater hnow)
      rw [if_neg hlive', if_neg hexpired, if_neg]
      intro hboth
      exact hlive hboth.1

/-- A look-up is deferred at one second, and ends in the same one; its job counts for five. -/
def lateLifetime : Lifetime hurried (Scene.start letters 0) "a" where
  before := lateMoves.take 9
  creation := .caller 0 .turn
  meanwhile := (lateMoves.drop 10).take 9
  ending := .deferred 0 .turn
  forward := ⟨by decide +kernel, by decide +kernel⟩
  unknown := by decide +kernel
  known := by decide +kernel
  goesOn := by decide +kernel
  ends := by decide +kernel

theorem polled_lateLifetime :
    Function.Injective letters ∧ hurried.jobTtl ≠ .nan ∧ ∃ name outcome,
      (lateLifetime.during []).polled hurried "a" = some (.ok (.job ⟨"a", name, .pending⟩)) ∧
      (lateLifetime.after [.clock 5999]).polled hurried "a" =
          some (.ok (.job ⟨"a", name, .settled outcome⟩)) ∧
      (lateLifetime.after [.clock 6000]).polled hurried "a" =
          some (.error (.missing .lookupJob)) := by
  have httl : hurried.jobTtl ≠ .nan := by decide +kernel
  obtain ⟨name, outcome, _, hduring, hafter⟩ :=
    polled_of_lifetime letters_injective httl lateLifetime
  refine ⟨letters_injective, httl, name, outcome, ?_, ?_, ?_⟩
  · rw [hduring [] List.nil_prefix, if_pos (by decide +kernel)]
  · rw [hafter [.clock 5999] ⟨by decide +kernel, by decide +kernel⟩, if_pos (by decide +kernel)]
  · rw [hafter [.clock 6000] ⟨by decide +kernel, by decide +kernel⟩, if_neg (by decide +kernel)]

end AlertRelay.Channel
