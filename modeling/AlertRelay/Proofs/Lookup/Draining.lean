import AlertRelay.Proofs.Lookup.Entries
import AlertRelay.Proofs.Lookup.Steps

/-!
Draining.

The look-ups in flight are, each as often as it was deferred, those that go on in the background
and those whose end is still to be noted; and whoever finds a pending job finds a look-up of it
that goes on (`Scene.Tracked`).  Main statement: in every scene that moves lead to, a pending job
has a look-up in flight that has not noted its outcome, no look-up fails, and when a drain ends no
job is pending (`settled_of_drained`).
-/

namespace AlertRelay.Channel

theorem count_eraseIdx {α : Type} [DecidableEq α] {i : Nat} {x : α} {l : List α}
    (h : l[i]? = some x) (y : α) :
    (l.eraseIdx i).count y + (if x = y then 1 else 0) = l.count y := by
  conv => rhs; rw [eq_take_cons_drop h]
  rw [List.eraseIdx_eq_take_drop_succ]
  simp only [List.count_append, List.count_cons, beq_iff_eq]
  omega

namespace Deferred

/-- Whether a look-up of a job still goes on. -/
def goesOnFor (config : Config) (jobId : String) (l : Deferred) : Bool :=
  l.jobId == jobId && (l.alone config).result?.isNone

/-- A look-up that has ended has ended well. -/
theorem Follows.result?_eq {config : Config} {l : Deferred} (h : l.Follows config)
    {r : Except Failure Unit} (hr : l.stand.result? = some r) : r = .ok () := by
  cases hresult : (l.alone config).result? with
  | none =>
      rw [h.goesOn_iff.mp hresult] at hr
      cases hr
  | some r' =>
      rw [(h.ends r' hresult).1] at hr
      cases hr
      rfl

end Deferred

namespace Scene

/-- Every look-up that goes on, or whose end is still to be noted, counts once among those in
flight, and every pending job has a look-up that goes on. -/
structure Tracked (config : Config) (s : Scene) : Prop where
  keys : s.world.memory.jobs.keys.Nodup
  inFlight : ∀ jobId, s.world.memory.inFlight.count jobId =
    s.deferred.countP (Deferred.goesOnFor config jobId) + s.callbacks.count jobId
  pending : ∀ jobId j, s.job? jobId = some j → j.status = .pending →
    ∃ l ∈ s.deferred, Deferred.goesOnFor config jobId l = true

variable {config : Config} {s s' : Scene}

/-- A look-up that is deferred goes on for its own job. -/
theorem goesOnFor_start (config : Config) (caller : Nat) (jobId organizationId : String)
    (workspace : Integration.Workspace) (name : String) (st : Stand Unit) (other : String) :
    Deferred.goesOnFor config other ⟨caller, jobId, organizationId, workspace, name, st, []⟩ =
      (jobId == other) :=
  Bool.and_true _

theorem goesOnFor_of_none {l : Deferred} (h : (l.alone config).result? = none)
    (jobId : String) : Deferred.goesOnFor config jobId l = (l.jobId == jobId) := by
  simp only [Deferred.goesOnFor, h, Option.isNone_none, Bool.and_true]

theorem goesOnFor_of_some {l : Deferred} {r : Except Failure JobOutcome}
    (h : (l.alone config).result? = some r) (jobId : String) :
    Deferred.goesOnFor config jobId l = false := by
  simp only [Deferred.goesOnFor, h, Option.isNone_some, Bool.and_false]

/-- Look-ups that go on stay when something is put in the place of one that goes on no more or
is for another job. -/
theorem exists_goesOnFor_place {i : Nat} {l x : Deferred} {deferred : List Deferred}
    (hl : deferred[i]? = some l) {jobId : String}
    (hx : Deferred.goesOnFor config jobId l = true → Deferred.goesOnFor config jobId x = true)
    (h : ∃ m ∈ deferred, Deferred.goesOnFor config jobId m = true) :
    ∃ m ∈ place i x deferred, Deferred.goesOnFor config jobId m = true := by
  rw [← List.countP_pos_iff] at h ⊢
  have hcount := countP_place (x := x) hl (Deferred.goesOnFor config jobId)
  split at hcount
  · next hgoes =>
      rw [if_pos (hx hgoes)] at hcount
      omega
  · omega

/-- A look-up is in flight from its deferral to the note that follows its end. -/
theorem Tracked.inFlight_goes (h : s.Tracked config) (hgoes : s.Goes config s')
    (jobId : String) : s'.world.memory.inFlight.count jobId =
      s'.deferred.countP (Deferred.goesOnFor config jobId) + s'.callbacks.count jobId := by
  have hbefore := h.inFlight jobId
  cases hgoes with
  | idle => exact hbefore
  | clock time => exact hbefore
  | caller hi hfree hkept htold hdrained =>
      simp only [hkept.inFlight]
      exact hbefore
  | deferral hi hfree hdeferral htold =>
      simp only [hdeferral.inFlight, List.count_append, List.countP_append, hbefore,
        List.countP_singleton, List.count_singleton, goesOnFor_start]
      omega
  | poll hi hfree htold => exact hbefore
  | @search i l g st w' hl hopen hopen' hkept =>
      have hcount := countP_place (x := l.next g st) hl (Deferred.goesOnFor config jobId)
      rw [goesOnFor_of_none hopen', goesOnFor_of_none hopen] at hcount
      have hsame : (l.next g st).jobId = l.jobId := rfl
      rw [hsame] at hcount
      simp only [hkept.inFlight, hbefore]
      omega
  | @recording i l g st outcome w' hl hopen hended hrecording =>
      -- The look-up that ends goes on no more, and is still to be noted.
      have hcount := countP_place (x := l.next g st) hl (Deferred.goesOnFor config jobId)
      rw [goesOnFor_of_some hended, goesOnFor_of_none hopen] at hcount
      simp only [Bool.false_eq_true, if_false] at hcount
      simp only [hrecording.inFlight, hbefore, List.count_append, List.count_singleton]
      omega
  | @callback i ended hcallback =>
      have hcount := count_eraseIdx hcallback jobId
      simp only [List.count_erase, beq_iff_eq]
      by_cases hjob : ended = jobId
      · rw [if_pos hjob] at hcount ⊢
        omega
      · rw [if_neg hjob] at hcount ⊢
        omega

/-- A job gets pending with its look-up, and stays so no longer than its look-up goes on. -/
theorem Tracked.pending_goes (h : s.Tracked config) (hgoes : s.Goes config s') {jobId : String}
    {j : Job} (hj : s'.job? jobId = some j) (hpending : j.status = .pending) :
    ∃ l ∈ s'.deferred, Deferred.goesOnFor config jobId l = true := by
  cases hgoes with
  | idle => exact h.pending jobId j hj hpending
  | clock time => exact h.pending jobId j hj hpending
  | caller hi hfree hkept htold hdrained =>
      simp only [job?, hkept.jobs] at hj
      exact h.pending jobId j hj hpending
  | @deferral i organizationId integrationId name new workspace st w' hi hfree hdeferral htold =>
      by_cases hnew : jobId = new
      · subst hnew
        refine ⟨_, List.mem_append_right _ List.mem_cons_self, ?_⟩
        rw [goesOnFor_start]
        exact beq_self_eq_true jobId
      · have hbefore : s.job? jobId = some j := job?_of_job? (fun e he => by
          simp only [hdeferral.jobs] at he
          exact ExpiringMap.entry?_of_set h.keys hnew he) hj
        obtain ⟨l, hl, hgoes⟩ := h.pending jobId j hbefore hpending
        exact ⟨l, List.mem_append_left _ hl, hgoes⟩
  | poll hi hfree htold =>
      exact h.pending jobId j (job?_of_job? (fun _ => ExpiringMap.entry?_of_read) hj) hpending
  | @search i l g st w' hl hopen hopen' hkept =>
      simp only [job?, hkept.jobs] at hj
      refine exists_goesOnFor_place hl (fun hgoes => ?_) (h.pending jobId j hj hpending)
      rw [goesOnFor_of_none hopen] at hgoes
      rw [goesOnFor_of_none hopen']
      exact hgoes
  | @recording i l g st outcome w' hl hopen hended hrecording =>
      by_cases hjob : jobId = l.jobId
      · -- The job of this look-up is not pending any more.
        subst hjob
        obtain ⟨e, he, rfl⟩ := Option.map_eq_some_iff.mp hj
        simp only [hrecording.jobs] at he
        obtain ⟨old, _, hvalue⟩ := Jobs.entry?_complete_self he
        rw [hvalue] at hpending
        cases hpending
      · have hother : Deferred.goesOnFor config jobId l = false := by
          rw [goesOnFor_of_none hopen]
          exact beq_false_of_ne (Ne.symm hjob)
        have hbefore : s.job? jobId = some j := job?_of_job? (fun e he => by
          simp only [hrecording.jobs] at he
          exact Jobs.entry?_of_complete h.keys hjob he) hj
        refine exists_goesOnFor_place hl (fun hgoes => ?_) (h.pending jobId j hbefore hpending)
        rw [hother] at hgoes
        cases hgoes
  | callback hcallback => exact h.pending jobId j hj hpending

theorem Tracked.goes (h : s.Tracked config) (hgoes : s.Goes config s') : s'.Tracked config :=
  ⟨hgoes.keys_nodup h.keys, h.inFlight_goes hgoes, fun _ _ => h.pending_goes hgoes⟩

theorem tracked_start (config : Config) (ids : Nat → String) (clock : Double) :
    (start ids clock).Tracked config :=
  ⟨List.nodup_nil, fun _ => rfl, fun _ _ hj => by cases hj⟩

/-- A job that is pending has a look-up in flight which has not noted its outcome. -/
theorem Tracked.mem_inFlight (h : s.Tracked config) (hproper : s.Proper config) {jobId : String}
    {j : Job} (hj : s.job? jobId = some j) (hpending : j.status = .pending) :
    jobId ∈ s.world.memory.inFlight ∧
      ∃ l ∈ s.deferred, l.jobId = jobId ∧ l.stand.result? = none := by
  obtain ⟨l, hl, hgoes⟩ := h.pending jobId j hj hpending
  have hpositive := List.countP_pos_iff.mpr ⟨l, hl, hgoes⟩
  obtain ⟨hjob, hopen⟩ := Bool.and_eq_true_iff.mp hgoes
  refine ⟨List.count_pos_iff.mp ?_, l, hl, beq_iff_eq.mp hjob, ?_⟩
  · rw [h.inFlight jobId]
    omega
  · exact (hproper.deferred l hl).goesOn_iff.mp (Option.isNone_iff_eq_none.mp hopen)

/-- When the drain of a caller ends with a move, no job is pending. -/
theorem Tracked.settled_of_drained (h : s.Tracked config) (hproper : s.Proper config)
    (hgoes : s.Goes config s') {i : Nat} {c : Caller} {r : Except Failure Answer}
    (hc : s'.callers[i]? = some c) (hdemand : c.demand = .drain) (hr : c.stand.result? = some r)
    (hbefore : ∀ c₀, s.callers[i]? = some c₀ → c₀.stand.result? = none) :
    r = .ok .drained ∧ ∀ jobId j, s'.job? jobId = some j → j.status ≠ .pending := by
  rcases hgoes.newly_ended hc hr hbefore with ⟨_, hdrained⟩ | ⟨_, _, _, _, hlookup, _⟩
  · obtain ⟨hanswer, hempty, hjobs⟩ := hdrained hdemand
    refine ⟨hanswer, fun jobId j hj hpending => ?_⟩
    rw [job?, hjobs] at hj
    obtain ⟨hmem, _⟩ := h.mem_inFlight hproper hj hpending
    rw [hempty] at hmem
    exact List.not_mem_nil hmem
  · rw [hdemand] at hlookup
    cases hlookup

end Scene

/-- In every scene that moves lead to: a pending job, expired or not, has a look-up in flight that
has not noted its outcome; a look-up that has ended has ended well, whatever it was given; and
after a move with which the drain of a caller ends, no job is pending. -/
theorem pending_in_flight_until_drained (config : Config) (ids : Nat → String) (clock : Double)
    (moves : List Move) :
    let s := (Scene.start ids clock).play config moves
    (∀ jobId j, s.job? jobId = some j → j.status = .pending →
        jobId ∈ s.world.memory.inFlight ∧
          ∃ l ∈ s.deferred, l.jobId = jobId ∧ l.stand.result? = none) ∧
      (∀ l ∈ s.deferred, ∀ r, l.stand.result? = some r → r = .ok ()) ∧
      ∀ (m : Move) (i : Nat) (c : Caller) (r : Except Failure Answer),
        (s.step config m).callers[i]? = some c → c.demand = .drain → c.stand.result? = some r →
        (∀ c₀, s.callers[i]? = some c₀ → c₀.stand.result? = none) →
        r = .ok .drained ∧
          ∀ jobId j, (s.step config m).job? jobId = some j → j.status ≠ .pending := by
  intro s
  obtain ⟨hproper, htracked⟩ := (Scene.proper_start config ids clock).play_induction
    (Scene.tracked_start config ids clock) (fun _ h hgoes => h.goes hgoes) moves
  refine ⟨fun jobId j => htracked.mem_inFlight hproper, fun l hl r => ?_, ?_⟩
  · exact (hproper.deferred l hl).result?_eq
  · intro m i c r hc hdemand hr hbefore
    exact htracked.settled_of_drained hproper (hproper.step m).1 hc hdemand hr hbefore

/-- A job that is pending while a drain waits, and the end of that drain. -/
theorem pending_in_flight_lateMoves :
    let s := (Scene.start letters 0).play hurried (lateMoves.take 12)
    let e := (Scene.start letters 0).play hurried (lateMoves.take 21)
    (s.job? "a" = some ⟨"a", "#general", .pending⟩ ∧ "a" ∈ s.world.memory.inFlight ∧
        ∃ l ∈ s.deferred, l.jobId = "a" ∧ l.stand.result? = none) ∧
      ∃ c, (e.step hurried (.caller 2 .settled)).callers[2]? = some c ∧ c.demand = .drain ∧
        c.stand.result? = some (.ok .drained) ∧
        ∀ jobId j, (e.step hurried (.caller 2 .settled)).job? jobId = some j →
          j.status ≠ .pending := by
  intro s e
  obtain ⟨hpending, _, _⟩ := pending_in_flight_until_drained hurried letters 0 (lateMoves.take 12)
  obtain ⟨_, _, hdrained⟩ := pending_in_flight_until_drained hurried letters 0 (lateMoves.take 21)
  have hjob : s.job? "a" = some ⟨"a", "#general", .pending⟩ := by decide +kernel
  have hwaits : (e.callers[2]?.map fun c => c.stand.result?.isNone) = some true := by
    decide +kernel
  have hends : ((e.step hurried (.caller 2 .settled)).callers[2]?.map fun c =>
      (c.demand matches .drain, c.stand.result?.isSome)) = some (true, true) := by
    decide +kernel
  obtain ⟨⟨demand, stand⟩, hc, hcaller⟩ := Option.map_eq_some_iff.mp hends
  obtain ⟨hdemand, hsome⟩ := Prod.mk.inj hcaller
  obtain ⟨r, hr⟩ := Option.isSome_iff_exists.mp hsome
  have hdrain : demand = .drain := by
    cases demand with
    | drain => rfl
    | _ => cases hdemand
  have hbefore (c₀ : Caller) (hc₀ : e.callers[2]? = some c₀) : c₀.stand.result? = none := by
    rw [hc₀] at hwaits
    exact Option.isNone_iff_eq_none.mp (Option.some.inj hwaits)
  obtain ⟨rfl, hsettled⟩ := hdrained (.caller 2 .settled) 2 _ r hc hdrain hr hbefore
  exact ⟨⟨hjob, hpending "a" _ hjob rfl⟩, _, hc, hdrain, hr, hsettled⟩

end AlertRelay.Channel
