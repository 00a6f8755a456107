import AlertRelay.Proofs.Database.Queries
import AlertRelay.Proofs.Lookup.Scene

/-!
Turns of callers and of deferred look-ups.

A caller who looks a name up is quiet until he is answered or his look-up is deferred
(`Demand.turned`).  A deferred look-up stands where the search for its outcome stands by itself,
with the note of the outcome still to come; that search does not fail
(`Deferred.Follows.turn`).
-/

namespace AlertRelay.Channel

open Program

section Within

variable {L : Limits}

/-- Resolving a name asks for the time, for a search, for ways to be given and for a record of the
log. -/
theorem within_resolveIn (hasks : ∀ e, Effect.Quiet e → L.asks e) (hfails : ∀ f, L.fails f)
    (config : Config) (organizationId : String) (workspace : Integration.Workspace)
    (name : String) (p : Patience) :
    (resolveIn config organizationId workspace name p).Within L := by
  have hresolve : (resolveName config name workspace.metadata.accessToken p).Within L :=
    ⟨hasks _ trivial, fun _ => ⟨hasks _ trivial, fun r => .ofExcept hfails r⟩⟩
  have hhanded := Within.handedOn (hasks _ trivial) hfails searchedStages hresolve
  have hmayFail : (handedOn searchedStages
      (resolveName config name workspace.metadata.accessToken p)).Within L.mayFail :=
    hhanded.mono (fun _ h => h) (fun _ h => h) fun _ _ => trivial
  refine hmayFail.attempt.bind fun r => ?_
  cases r with
  | error f => exact hfails _
  | ok o => exact ⟨hasks _ trivial, fun _ => trivial⟩

theorem within_tryLookup (config : Config) (organizationId integrationId name : String) :
    (tryLookup config organizationId integrationId name).Within .quiet := by
  have hopen : (Database.openPool config).Within .quiet :=
    Database.within_openPool (fun _ => trivial) (fun _ => ⟨rfl, rfl⟩) config
  have hquery : (Database.queryRow? config
      (Integration.activeQuery organizationId integrationId)).Within .quiet :=
    Database.within_queryRow? hopen (fun _ => trivial) trivial
  have hworkspace (row : Option Database.Row) : (Integration.workspaceOf row).Within .quiet := by
    cases row with
    | none => trivial
    | some row =>
        simp only [Integration.workspaceOf]
        split
        · trivial
        · exact ⟨trivial, fun _ => trivial⟩
  refine (hquery.bind hworkspace).bind fun found => ?_
  cases found with
  | none => trivial
  | some workspace =>
      have hresolve : (resolveIn config organizationId workspace name .interactive).Within .quiet :=
        within_resolveIn (fun _ h => h) (fun _ => trivial) config organizationId workspace name
          .interactive
      exact (hresolve.handedOn trivial (fun _ => trivial) 1).bind fun _ => trivial

/-- Whatever comes of the search, a look-up in the background has an outcome. -/
theorem within_lookupOutcome (config : Config) (jobId organizationId : String)
    (workspace : Integration.Workspace) (name : String) :
    (lookupOutcome config jobId organizationId workspace name).Within .lone := by
  have hresolve : (resolveIn config organizationId workspace name .background).Within
      Limits.lone.mayFail :=
    within_resolveIn (fun _ h => h) (fun _ => trivial) config organizationId workspace name
      .background
  have hhanded := hresolve.handedOn trivial (fun _ => trivial) 1
  refine hhanded.attempt.bind fun r => ?_
  cases r with
  | ok o => trivial
  | error f =>
      simp only [jobFailure]
      split
      · trivial
      · exact ⟨trivial, fun _ => trivial⟩

end Within

/-- What follows when a caller's own search has ended. -/
def conclude (config : Config) (organizationId integrationId name : String) :
    Integration.Workspace × Finding → Program Answer
  | (workspace, finding) =>
    if !finding.timedOut then .done (.looked (.ofFinding finding))
    else
      (deferLookup config organizationId integrationId workspace name).bind fun a =>
        .done (.looked a)

theorem program_lookup (config : Config) (organizationId integrationId name : String) :
    (Demand.lookup organizationId integrationId name).program config =
      (tryLookup config organizationId integrationId name).bind
        (conclude config organizationId integrationId name) := by
  simp only [Demand.program, Channel.lookup, Bind.bind, Pure.pure, bind_assoc]
  congr 1
  funext found
  obtain ⟨workspace, finding⟩ := found
  cases htimedOut : finding.timedOut with
  | false =>
      simp only [conclude, htimedOut, Bool.not_false, if_true]
      rfl
  | true => simp only [conclude, htimedOut, Bool.not_true, Bool.false_eq_true, if_false]

/-- What a deferral does: the job is made and noted, and the look-up is left for the background
and is in flight. -/
structure Deferral (config : Config) (jobId organizationId : String)
    (workspace : Integration.Workspace) (name : String) (w w' : World) : Prop where
  jobId_eq : jobId = w.ids (w.lastId + 1)
  clock : w'.clock = w.clock
  ids : w'.ids = w.ids
  lastId : w'.lastId = w.lastId + 1
  work : w'.work = .lookup jobId organizationId workspace name :: w.work
  jobs : w'.memory.jobs = w.memory.jobs.create w.clock config.jobTtl jobId name
  inFlight : w'.memory.inFlight = w.memory.inFlight ++ [jobId]

theorem Deferral.of_keptIn {config : Config} {jobId organizationId name : String}
    {workspace : Integration.Workspace} {w w₁ w' : World}
    (h : Deferral config jobId organizationId workspace name w₁ w') (hkept : w.KeptIn w₁) :
    Deferral config jobId organizationId workspace name w w' where
  jobId_eq := by rw [h.jobId_eq, hkept.ids, hkept.lastId]
  clock := h.clock.trans hkept.clock
  ids := h.ids.trans hkept.ids
  lastId := by rw [h.lastId, hkept.lastId]
  work := by rw [h.work, hkept.work]
  jobs := by rw [h.jobs, hkept.jobs, hkept.clock]
  inFlight := by rw [h.inFlight, hkept.inFlight]

theorem conclude_in_time (config : Config) (organizationId integrationId name : String)
    (workspace : Integration.Workspace) {finding : Finding} (h : finding.timedOut = false) :
    conclude config organizationId integrationId name (workspace, finding) =
      .done (.looked (.ofFinding finding)) := by
  simp only [conclude, h, Bool.not_false, if_true]

theorem deferral_conclude (config : Config) (organizationId integrationId name : String)
    (workspace : Integration.Workspace) {finding : Finding} (h : finding.timedOut = true)
    (w : World) :
    ∃ w', (conclude config organizationId integrationId name (workspace, finding)).turn w =
        (.ended (.ok (.looked (.pending (w.ids (w.lastId + 1))))), w') ∧
      Deferral config (w.ids (w.lastId + 1)) organizationId workspace name w w' := by
  simp only [conclude, h, Bool.not_true, Bool.false_eq_true, if_false]
  exact ⟨_, rfl, ⟨rfl, rfl, rfl, rfl, rfl, rfl, rfl⟩⟩

/-- Whether a program is what is left to do for a demand. -/
def Demand.Rest (config : Config) : Demand → Program Answer → Prop
  | .lookup organizationId integrationId name, p =>
    ∃ q : Program (Integration.Workspace × Finding), q.Within .quiet ∧
      p = q.bind (conclude config organizationId integrationId name)
  | .poll jobId, p => p = (Demand.poll jobId).program config
  | .drain, p => p = Demand.drain.program config

theorem Demand.rest_program (config : Config) (d : Demand) : d.Rest config (d.program config) := by
  cases d with
  | lookup organizationId integrationId name =>
      exact ⟨_, within_tryLookup config organizationId integrationId name,
        program_lookup config organizationId integrationId name⟩
  | poll jobId => rfl
  | drain => rfl

/-- Whether a caller has been told of a job that is pending. -/
def toldOf (jobId : String) (st : Stand Answer) : Prop :=
  st = .ended (.ok (.looked (.pending jobId)))

/-- What a turn of a caller may do to the world. -/
inductive Demand.Turned (config : Config) (w : World) : Demand → Stand Answer → World → Prop
  | kept {d : Demand} {st : Stand Answer} {w' : World} (hkept : w.KeptIn w')
      (htold : ∀ jobId, ¬ toldOf jobId st)
      (hdrained : d = .drain → ∀ r, st.result? = some r →
        r = .ok .drained ∧ w.memory.inFlight = []) : Turned config w d st w'
  | deferred {organizationId integrationId name jobId : String}
      {workspace : Integration.Workspace} {st : Stand Answer} {w' : World}
      (h : Deferral config jobId organizationId workspace name w w') (htold : toldOf jobId st) :
      Turned config w (.lookup organizationId integrationId name) st w'
  | polled {jobId : String} {st : Stand Answer} (htold : ∀ jobId, ¬ toldOf jobId st) :
      Turned config w (.poll jobId) st
        { w with memory := { w.memory with jobs := (w.memory.jobs.read w.clock jobId).2 } }

/-- What a poll is answered: the job that was found, or that there is none. -/
def pollResult : Option Job → Except Failure Answer
  | some job => .ok (.job job)
  | none => .error (.missing .lookupJob)

theorem turn_poll (config : Config) (jobId : String) (w : World) :
    ((Demand.poll jobId).program config).turn w =
      (.ended (pollResult (w.memory.jobs.read w.clock jobId).1),
        { w with memory := { w.memory with jobs := (w.memory.jobs.read w.clock jobId).2 } }) := by
  have hprogram : ((Demand.poll jobId).program config).turn w =
      ((Integration.orMissing .lookupJob (w.memory.jobs.read w.clock jobId).1).bind fun job =>
        .done (.job job)).turn
        { w with memory := { w.memory with jobs := (w.memory.jobs.read w.clock jobId).2 } } := rfl
  rw [hprogram]
  cases (w.memory.jobs.read w.clock jobId).1 with
  | none => rfl
  | some job => rfl

theorem turn_drain (config : Config) (w : World) :
    (Demand.drain.program config).turn w =
      if w.memory.inFlight.isEmpty then (.ended (.ok .drained), w)
      else (.awaiting w.memory.inFlight (Demand.drain.program config), w) := rfl

/-- A turn of a caller's program that follows a quiet one. -/
theorem turned_bind {config : Config} {organizationId integrationId name : String}
    {q : Program (Integration.Workspace × Finding)} (hq : q.Within .quiet) (w : World) :
    Demand.Turned config w (.lookup organizationId integrationId name)
        ((q.bind (conclude config organizationId integrationId name)).turn w).1
        ((q.bind (conclude config organizationId integrationId name)).turn w).2 ∧
      ∀ a p, ((q.bind (conclude config organizationId integrationId name)).turn w).1.resume? a =
        some p → (Demand.lookup organizationId integrationId name).Rest config p := by
  have hkept := keptIn_turn hq (World.KeptIn.refl w)
  have hnext (a : Arrival) (q' : Program (Integration.Workspace × Finding))
      (h : (q.turn w).1.resume? a = some q') : q'.Within .quiet :=
    hq.of_resume? trivial trivial (fun _ => trivial) h
  rw [turn_bind]
  generalize q.turn w = t at hkept hnext
  obtain ⟨st, w'⟩ := t
  cases st with
  | ended r =>
      -- Nothing is waited for, whatever the end is.
      have hended {answer : Except Failure Answer}
          (htold : ∀ jobId, ¬ toldOf jobId (.ended answer)) :
          Demand.Turned config w (.lookup organizationId integrationId name) (.ended answer) w' ∧
            ∀ a p, (Stand.ended answer).resume? a = some p →
              (Demand.lookup organizationId integrationId name).Rest config p :=
        ⟨.kept hkept htold (fun hd => by cases hd), fun a p hp => by cases a <;> cases hp⟩
      cases r with
      | error f => exact hended fun jobId htold => by cases htold
      | ok found =>
          obtain ⟨workspace, finding⟩ := found
          cases htimedOut : finding.timedOut with
          | false =>
              simp only [Stand.andThen, conclude_in_time config organizationId integrationId name
                workspace htimedOut]
              apply hended
              intro jobId htold
              unfold LookupAnswer.ofFinding at htold
              cases hfound : finding.found? with
              | some id =>
                  rw [hfound] at htold
                  cases htold
              | none =>
                  rw [hfound] at htold
                  cases htold
          | true =>
              obtain ⟨w₁, hturn, hdeferral⟩ :=
                deferral_conclude config organizationId integrationId name workspace htimedOut w'
              simp only [Stand.andThen, hturn]
              exact ⟨.deferred (hdeferral.of_keptIn hkept) rfl,
                fun a p hp => by cases a <;> cases hp⟩
  | _ =>
      refine ⟨.kept hkept (fun jobId htold => by cases htold) (fun hd => by cases hd),
        fun a p hp => ?_⟩
      rw [Stand.resume?_andThen rfl, Option.map_eq_some_iff] at hp
      obtain ⟨q', hq', rfl⟩ := hp
      exact ⟨q', hnext a q' hq', rfl⟩

/-- What a turn of a caller does, and what is left to do after it. -/
theorem Demand.Rest.turned {config : Config} {d : Demand} {p : Program Answer}
    (h : d.Rest config p) (w : World) :
    Turned config w d (p.turn w).1 (p.turn w).2 ∧
      ∀ a q, (p.turn w).1.resume? a = some q → d.Rest config q := by
  cases d with
  | lookup organizationId integrationId name =>
      obtain ⟨q, hq, rfl⟩ := h
      exact turned_bind hq w
  | poll jobId =>
      cases h
      rw [turn_poll]
      refine ⟨.polled fun id htold => ?_, fun a q hq => by cases a <;> cases hq⟩
      generalize (w.memory.jobs.read w.clock jobId).1 = found at htold
      cases found with
      | none => cases htold
      | some job => cases htold
  | drain =>
      cases h
      rw [turn_drain]
      split
      · next hempty =>
          refine ⟨.kept (.refl w) (fun id htold => by cases htold) fun _ r hr => ?_,
            fun a q hq => by cases a <;> cases hq⟩
          cases hr
          exact ⟨rfl, List.isEmpty_iff.mp hempty⟩
      · refine ⟨.kept (.refl w) (fun id htold => by cases htold) (fun _ r hr => by cases hr),
          fun a q hq => ?_⟩
        cases a <;> cases hq
        rfl

namespace Deferred

/-- Where the search for the outcome of a look-up stands by itself, from what the look-up was
given and when. -/
def alone (config : Config) (l : Deferred) : Stand JobOutcome :=
  (lookupOutcome config l.jobId l.organizationId l.workspace l.name).alone l.given

/-- What follows when the outcome of a look-up is there. -/
def record (config : Config) (l : Deferred) (outcome : JobOutcome) : Program Unit := do
  discard <| completeJob config l.jobId outcome

/-- A look-up stands where the search for its outcome stands by itself, with the note of the
outcome still to come; and when that has ended, the look-up has ended well. -/
structure Follows (config : Config) (l : Deferred) : Prop where
  within : ∀ a q, (l.alone config).resume? a = some q → q.Within .lone
  waits : (l.alone config).result? = none → l.stand.result? = none ∧
    ∀ a, l.stand.resume? a = ((l.alone config).resume? a).map (·.bind (l.record config))
  ends : ∀ r, (l.alone config).result? = some r →
    l.stand.result? = some (.ok ()) ∧ ∃ outcome, r = .ok outcome

/-- The look-up goes on as long as the search for its outcome does. -/
theorem Follows.goesOn_iff {config : Config} {l : Deferred} (h : l.Follows config) :
    (l.alone config).result? = none ↔ l.stand.result? = none := by
  constructor
  · exact fun hnone => (h.waits hnone).1
  · intro hnone
    cases hresult : (l.alone config).result? with
    | none => rfl
    | some r =>
        rw [(h.ends r hresult).1] at hnone
        cases hnone

/-- What noting an outcome does to the world. -/
structure Recording (config : Config) (jobId : String) (outcome : JobOutcome) (w w' : World) :
    Prop where
  clock : w'.clock = w.clock
  ids : w'.ids = w.ids
  lastId : w'.lastId = w.lastId
  work : w'.work = w.work
  jobs : w'.memory.jobs = (w.memory.jobs.complete w.clock config.jobTtl jobId outcome).2
  inFlight : w'.memory.inFlight = w.memory.inFlight

theorem Recording.of_keptIn {config : Config} {jobId : String} {outcome : JobOutcome}
    {w w₁ w' : World} (h : Recording config jobId outcome w₁ w') (hkept : w.KeptIn w₁) :
    Recording config jobId outcome w w' where
  clock := h.clock.trans hkept.clock
  ids := h.ids.trans hkept.ids
  lastId := h.lastId.trans hkept.lastId
  work := h.work.trans hkept.work
  jobs := by rw [h.jobs, hkept.jobs, hkept.clock]
  inFlight := h.inFlight.trans hkept.inFlight

theorem alone_next (config : Config) (l : Deferred) (g : Given) (st : Stand Unit) :
    (l.next g st).alone config = (l.alone config).given g := by
  simp only [alone, next, Program.alone, List.foldl_append, List.foldl_cons, List.foldl_nil]

theorem turn_record (config : Config) (l : Deferred) (outcome : JobOutcome) (w : World) :
    ∃ w', (l.record config outcome).turn w = (.ended (.ok ()), w') ∧
      Recording config l.jobId outcome w w' :=
  ⟨_, rfl, ⟨rfl, rfl, rfl, rfl, rfl, rfl⟩⟩

/-- A look-up that has just been deferred. -/
theorem follows_start (config : Config) (caller : Nat) (jobId organizationId : String)
    (workspace : Integration.Workspace) (name : String) :
    Follows config ⟨caller, jobId, organizationId, workspace, name,
      .givingWay (finishLookup config jobId organizationId workspace name), []⟩ where
  within := by
    intro a q hq
    cases a <;> cases hq
    exact within_lookupOutcome config jobId organizationId workspace name
  waits _ := ⟨rfl, fun a => by cases a <;> rfl⟩
  ends r hr := by cases hr

/-- A turn of a deferred look-up: it goes on as the search for its outcome does by itself, and if
that ends, the outcome is noted in the same turn. -/
theorem Follows.turn {config : Config} {l : Deferred} (h : l.Follows config) {a : Arrival}
    {p : Program Unit} (hp : l.stand.resume? a = some p) (w : World) :
    (l.alone config).result? = none ∧
      (l.next ⟨a, w.clock⟩ (p.turn w).1).Follows config ∧
      ((((l.next ⟨a, w.clock⟩ (p.turn w).1).alone config).result? = none ∧
          w.KeptIn (p.turn w).2) ∨
        ∃ outcome, ((l.next ⟨a, w.clock⟩ (p.turn w).1).alone config).result? =
            some (.ok outcome) ∧ Recording config l.jobId outcome w (p.turn w).2) := by
  have hnone : (l.alone config).result? = none := by
    cases hresult : (l.alone config).result? with
    | none => rfl
    | some r =>
        obtain ⟨hended, _⟩ := h.ends r hresult
        rw [Stand.resume?_ended hended] at hp
        cases hp
  obtain ⟨hwaits, hresume⟩ := h.waits hnone
  rw [hresume, Option.map_eq_some_iff] at hp
  obtain ⟨q, hq, rfl⟩ := hp
  have hlone := h.within a q hq
  have halone : (l.alone config).given ⟨a, w.clock⟩ = (q.turn w).1 := by
    simp only [Stand.given, hq]
    exact turn_congr hlone rfl
  have hkept : w.KeptIn (q.turn w).2 :=
    keptIn_turn (hlone.mono (fun _ h => h) (fun _ h => h.elim) fun _ _ => trivial) (.refl w)
  have hsure (f : Failure) : (q.turn w).1.result? ≠ some (.error f) :=
    fun hf => hlone.of_result? hf
  have hstays (b : Arrival) (q' : Program JobOutcome)
      (hq' : (q.turn w).1.resume? b = some q') : q'.Within .lone :=
    hlone.of_resume? trivial trivial (fun _ => trivial) hq'
  refine ⟨hnone, ?_⟩
  rw [turn_bind]
  generalize q.turn w = t at halone hkept hsure hstays
  obtain ⟨st, w₁⟩ := t
  have hafter (st' : Stand Unit) : (l.next ⟨a, w.clock⟩ st').alone config = st := by
    rw [alone_next, halone]
  cases hresult : st.result? with
  | none =>
      obtain ⟨hopen, hworld⟩ := Stand.result?_andThen hresult w₁ (l.record config)
      refine ⟨⟨?_, fun _ => ⟨hopen, fun b => ?_⟩, fun r hr => ?_⟩, .inl ⟨?_, ?_⟩⟩
      · rw [hafter]
        exact hstays
      · rw [hafter]
        exact Stand.resume?_andThen hresult w₁ (l.record config) b
      · rw [hafter, hresult] at hr
        cases hr
      · rw [hafter, hresult]
      · rw [hworld]
        exact hkept
  | some r =>
      cases st with
      | ended r' =>
          cases hresult
          cases r with
          | error f => exact absurd rfl (hsure f)
          | ok outcome =>
              obtain ⟨w₂, hturn, hrecording⟩ := turn_record config l outcome w₁
              simp only [Stand.andThen, hturn]
              refine ⟨⟨?_, fun hopen => ?_, fun r hr => ?_⟩, .inr ⟨outcome, ?_, ?_⟩⟩
              · rw [hafter]
                exact hstays
              · rw [hafter] at hopen
                cases hopen
              · rw [hafter] at hr
                cases hr
                exact ⟨rfl, outcome, rfl⟩
              · rw [hafter]
                rfl
              · exact hrecording.of_keptIn hkept
      | _ => cases hresult

end Deferred

end AlertRelay.Channel
