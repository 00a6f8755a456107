import AlertRelay.Proofs.Lookup.Entries
import AlertRelay.Proofs.Lookup.Steps

/-!
Jobs of deferred look-ups.

Where identities are never made twice, every job that is stored is the job of one deferred look-up:
it has the identity and the name that the look-up was deferred with, and stands as the search for
the outcome of that look-up stands by itself (`Scene.Accounted`).  Look-ups are only given more
and more (`Scene.Grows`), and a job that was read in vain is not stored again (`Scene.Gone`).  Main
statement: the life of jobs (`lifeOfJobs_play`).
-/

namespace AlertRelay.Channel

/-- How a job stands, as the search for its outcome stands. -/
def JobStatus.ofStand : Stand JobOutcome → JobStatus
  | .ended (.ok outcome) => .settled outcome
  | _ => .pending

/-- Where a look-up comes from: the caller it was deferred for, by his place, its job, the
organization and the name. -/
structure Origin where
  caller : Nat
  jobId : String
  organizationId : String
  name : String

namespace Deferred

def origin (l : Deferred) : Origin :=
  ⟨l.caller, l.jobId, l.organizationId, l.name⟩

/-- The job of a look-up, as its own replies and the times at which they came make it. -/
def job (config : Config) (l : Deferred) : Job :=
  ⟨l.jobId, l.name, .ofStand (l.alone config)⟩

variable {config : Config} {l : Deferred}

theorem job_of_none (h : (l.alone config).result? = none) :
    l.job config = ⟨l.jobId, l.name, .pending⟩ := by
  unfold job
  cases hstand : l.alone config with
  | ended r =>
      rw [hstand] at h
      cases h
  | _ => rfl

/-- A look-up that was given more. -/
def Continues (l l' : Deferred) : Prop :=
  ∃ st given, l' = { l with stand := st, given := l.given ++ given }

theorem alone_of_ended {r : Except Failure JobOutcome} (h : (l.alone config).result? = some r)
    (st : Stand Unit) (given : List Given) :
    alone config { l with stand := st, given := l.given ++ given } = l.alone config := by
  have hstays (given : List Given) : given.foldl Stand.given (l.alone config) = l.alone config := by
    induction given with
    | nil => rfl
    | cons g given ih =>
        rw [List.foldl_cons, Stand.given, Stand.resume?_ended h]
        exact ih
  simp only [alone, Program.alone, List.foldl_append]
  exact hstays given

theorem job_of_ok {outcome : JobOutcome} (h : (l.alone config).result? = some (.ok outcome)) :
    l.job config = ⟨l.jobId, l.name, .settled outcome⟩ := by
  unfold job
  cases hstand : l.alone config with
  | ended r =>
      rw [hstand] at h
      cases h
      rfl
  | _ =>
      rw [hstand] at h
      cases h

/-- The job of a look-up that is given more changes at most from pending to an outcome. -/
theorem Continues.job {l' : Deferred} (h : l.Continues l') :
    (l'.job config).id = (l.job config).id ∧ (l'.job config).name = (l.job config).name ∧
      ((l'.job config).status = (l.job config).status ∨ (l.job config).status = .pending) := by
  obtain ⟨st, given, rfl⟩ := h
  refine ⟨rfl, rfl, ?_⟩
  cases hresult : (l.alone config).result? with
  | none => exact .inr (congrArg Job.status (job_of_none hresult))
  | some r =>
      have hstays := alone_of_ended hresult st given
      exact .inl (congrArg JobStatus.ofStand hstays)

end Deferred

namespace Scene

/-- Where the deferred look-ups come from. -/
def origins (s : Scene) : List Origin :=
  s.deferred.map Deferred.origin

/-- Every look-up has a job of its own, which is one of those handed out, and every caller who was
told of a job was told of the one of his look-up; what is stored are jobs of look-ups. -/
structure Accounted (config : Config) (s : Scene) : Prop where
  injective : Function.Injective s.world.ids
  keys : s.world.memory.jobs.keys.Nodup
  numbered : s.origins.map (·.jobId) =
    (List.range s.world.lastId).map fun n => s.world.ids (n + 1)
  told : ∀ i c jobId, s.callers[i]? = some c → toldOf jobId c.stand →
    ∃ o ∈ s.origins, o.jobId = jobId ∧ o.caller = i
  demanded : ∀ o ∈ s.origins, ∃ c integrationId, s.callers[o.caller]? = some c ∧
    c.demand = .lookup o.organizationId integrationId o.name ∧ toldOf o.jobId c.stand
  stored : ∀ jobId j, s.job? jobId = some j → ∃ l ∈ s.deferred, l.jobId = jobId ∧ j = l.job config

variable {config : Config} {s s' : Scene}

theorem Accounted.nodup (h : s.Accounted config) : (s.deferred.map (·.jobId)).Nodup := by
  have hids : s.deferred.map (·.jobId) = s.origins.map (·.jobId) := by
    simp only [origins, List.map_map]
    rfl
  rw [hids, h.numbered]
  refine List.Nodup.map (fun n m hnm => ?_) List.nodup_range
  exact Nat.succ.inj (h.injective hnm)

/-- Two look-ups with one job are one. -/
theorem Accounted.eq_of_jobId (h : s.Accounted config) {i k : Nat} {l m : Deferred}
    (hl : s.deferred[i]? = some l) (hm : s.deferred[k]? = some m) (hjob : l.jobId = m.jobId) :
    i = k := by
  have hl' : (s.deferred.map (·.jobId))[i]? = some l.jobId := by
    rw [List.getElem?_map, hl]
    rfl
  have hm' : (s.deferred.map (·.jobId))[k]? = some l.jobId := by
    rw [List.getElem?_map, hm, hjob]
    rfl
  obtain ⟨hi, _⟩ := List.getElem?_eq_some_iff.mp hl'
  exact (List.getElem?_inj hi h.nodup).mp (hl'.trans hm'.symm)

/-- An identity that is made next was not made before. -/
theorem Accounted.ne_of_next (h : s.Accounted config) {l : Deferred} (hl : l ∈ s.deferred) :
    l.jobId ≠ s.world.ids (s.world.lastId + 1) := by
  have hmem : l.jobId ∈ s.origins.map (·.jobId) :=
    List.mem_map.mpr ⟨l.origin, List.mem_map_of_mem hl, rfl⟩
  rw [h.numbered, List.mem_map] at hmem
  obtain ⟨n, hn, hid⟩ := hmem
  rw [← hid]
  intro heq
  have hnumber := h.injective heq
  rw [List.mem_range] at hn
  omega

/-- What is stored under the job of a look-up is its job. -/
theorem Accounted.value_eq (h : s.Accounted config) {i : Nat} {l : Deferred}
    (hl : s.deferred[i]? = some l) {e : Expiring Job}
    (he : s.world.memory.jobs.entry? l.jobId = some e) : e.value = l.job config := by
  obtain ⟨m, hm, hjob, hvalue⟩ := h.stored l.jobId e.value (by rw [job?, he]; rfl)
  obtain ⟨k, hk⟩ := List.mem_iff_getElem?.mp hm
  cases h.eq_of_jobId hk hl hjob
  rw [hk] at hl
  cases hl
  exact hvalue

theorem result?_of_toldOf {jobId : String} {st : Stand Answer} (h : toldOf jobId st) :
    st.result? = some (.ok (.looked (.pending jobId))) := by
  rw [h]
  rfl

/-- A caller who was told of a job has gone on for the last time, and keeps his place. -/
theorem getElem?_place_of_toldOf {i k : Nat} {c x : Caller} {jobId : String}
    (hi : i ≤ s.callers.length) (hfree : ∀ c, s.callers[i]? = some c → c.stand.result? = none)
    (hc : s.callers[k]? = some c) (htold : toldOf jobId c.stand) :
    (place i x s.callers)[k]? = some c := by
  have hk : k ≠ i := by
    rintro rfl
    exact absurd (hfree c hc) (by rw [result?_of_toldOf htold]; exact Option.some_ne_none _)
  rw [getElem?_place hi, if_neg hk, hc]

/-- A caller comes or goes on, and no new job is stored. -/
theorem Accounted.of_caller (h : s.Accounted config) {i : Nat} {x : Caller} {w' : World}
    (hi : i ≤ s.callers.length) (hfree : ∀ c, s.callers[i]? = some c → c.stand.result? = none)
    (htold : ∀ jobId, ¬ toldOf jobId x.stand) (hids : w'.ids = s.world.ids)
    (hlastId : w'.lastId = s.world.lastId) (hkeys : w'.memory.jobs.keys.Nodup)
    (hjobs : ∀ jobId e, ExpiringMap.entry? w'.memory.jobs jobId = some e →
      s.world.memory.jobs.entry? jobId = some e) :
    Accounted config ⟨w', place i x s.callers, s.deferred, s.callbacks⟩ where
  injective := by
    rw [hids]
    exact h.injective
  keys := hkeys
  numbered := by
    rw [hids, hlastId]
    exact h.numbered
  told k c jobId hc hctold := by
    rw [getElem?_place hi] at hc
    split at hc
    · cases hc
      exact absurd hctold (htold jobId)
    · exact h.told k c jobId hc hctold
  demanded o ho := by
    obtain ⟨c, integrationId, hc, hdemand, hctold⟩ := h.demanded o ho
    exact ⟨c, integrationId, getElem?_place_of_toldOf hi hfree hc hctold, hdemand, hctold⟩
  stored jobId j hj := h.stored jobId j (job?_of_job? (hjobs jobId) hj)

/-- The look-up of a caller is deferred: the one that goes on behind all others. -/
theorem Accounted.of_deferral (h : s.Accounted config) {i : Nat}
    {organizationId integrationId name jobId : String} {workspace : Integration.Workspace}
    {st : Stand Answer} {l : Deferred} {w' : World} (hi : i ≤ s.callers.length)
    (hfree : ∀ c, s.callers[i]? = some c → c.stand.result? = none)
    (hdeferral : Deferral config jobId organizationId workspace name s.world w')
    (htold : toldOf jobId st) (hkeys : w'.memory.jobs.keys.Nodup)
    (horigin : l.origin = ⟨i, jobId, organizationId, name⟩)
    (hjob : l.job config = ⟨jobId, name, .pending⟩) :
    Accounted config ⟨{ w' with work := [] },
      place i ⟨.lookup organizationId integrationId name, st⟩ s.callers, s.deferred ++ [l],
      s.callbacks⟩ where
  injective := by
    simp only [hdeferral.ids]
    exact h.injective
  keys := hkeys
  numbered := by
    have hnumbered := h.numbered
    simp only [origins, List.map_append, List.map_cons, List.map_nil, horigin, hdeferral.ids,
      hdeferral.lastId, List.range_succ] at hnumbered ⊢
    rw [hnumbered, ← hdeferral.jobId_eq]
  told k c other hc hctold := by
    rw [getElem?_place hi] at hc
    split at hc
    · next hk =>
        cases hc
        cases htold.symm.trans hctold
        exact ⟨l.origin, List.mem_map_of_mem (List.mem_append_right _ List.mem_cons_self), by
          rw [horigin], by rw [horigin, hk]⟩
    · obtain ⟨o, ho, hother⟩ := h.told k c other hc hctold
      simp only [origins, List.map_append]
      exact ⟨o, List.mem_append_left _ ho, hother⟩
  demanded o ho := by
    simp only [origins, List.map_append, List.map_cons, List.map_nil, horigin] at ho
    rcases List.mem_append.mp ho with ho | ho
    · obtain ⟨c, integration, hc, hdemand, hctold⟩ := h.demanded o ho
      exact ⟨c, integration, getElem?_place_of_toldOf hi hfree hc hctold, hdemand, hctold⟩
    · rw [List.mem_singleton.mp ho]
      refine ⟨⟨.lookup organizationId integrationId name, st⟩, integrationId, ?_, rfl, htold⟩
      rw [getElem?_place hi, if_pos rfl]
  stored other j hj := by
    by_cases hother : other = jobId
    · subst hother
      simp only [job?, hdeferral.jobs, Jobs.create, ExpiringMap.entry?_set_self] at hj
      cases hj
      exact ⟨l, List.mem_append_right _ List.mem_cons_self, congrArg Job.id hjob, hjob.symm⟩
    · have hbefore : s.job? other = some j := job?_of_job? (fun e he => by
        simp only [hdeferral.jobs] at he
        exact ExpiringMap.entry?_of_set h.keys hother he) hj
      obtain ⟨m, hm, hmjob⟩ := h.stored other j hbefore
      exact ⟨m, List.mem_append_left _ hm, hmjob⟩

/-- A deferred look-up goes on in its place; what is stored afterwards has to be accounted for. -/
theorem Accounted.of_deferred (h : s.Accounted config) {i : Nat} {l : Deferred}
    (hl : s.deferred[i]? = some l) {g : Given} {st : Stand Unit} {w' : World}
    {callbacks : List String} (hids : w'.ids = s.world.ids)
    (hlastId : w'.lastId = s.world.lastId) (hkeys : w'.memory.jobs.keys.Nodup)
    (hself : ∀ e, ExpiringMap.entry? w'.memory.jobs l.jobId = some e →
      e.value = (l.next g st).job config)
    (hother : ∀ jobId e, jobId ≠ l.jobId → ExpiringMap.entry? w'.memory.jobs jobId = some e →
      s.world.memory.jobs.entry? jobId = some e) :
    Accounted config ⟨w', s.callers, place i (l.next g st) s.deferred, callbacks⟩ := by
  have horigins : (place i (l.next g st) s.deferred).map Deferred.origin = s.origins :=
    map_place hl rfl
  refine ⟨?_, hkeys, ?_, ?_, ?_, fun jobId j hj => ?_⟩
  · rw [hids]
    exact h.injective
  · simp only [origins, horigins, hids, hlastId]
    exact h.numbered
  · simp only [origins, horigins]
    exact h.told
  · simp only [origins, horigins]
    exact h.demanded
  · have hi := (List.getElem?_eq_some_iff.mp hl).1
    by_cases hjob : jobId = l.jobId
    · subst hjob
      obtain ⟨e, he, rfl⟩ := Option.map_eq_some_iff.mp hj
      refine ⟨l.next g st, ?_, rfl, hself e he⟩
      exact List.mem_append_right _ List.mem_cons_self
    · obtain ⟨m, hm, hmjob, hvalue⟩ :=
        h.stored jobId j (job?_of_job? (fun e => hother jobId e hjob) hj)
      obtain ⟨k, hk⟩ := List.mem_iff_getElem?.mp hm
      have hne : k ≠ i := by
        rintro rfl
        rw [hl] at hk
        cases hk
        exact hjob hmjob.symm
      refine ⟨m, List.mem_of_getElem? (i := k) ?_, hmjob, hvalue⟩
      rw [getElem?_place (Nat.le_of_lt hi), if_neg hne, hk]

/-- What happens in one move leaves all jobs accounted for. -/
theorem Accounted.goes (h : s.Accounted config) (hgoes : s.Goes config s') :
    s'.Accounted config := by
  have hkeys := hgoes.keys_nodup h.keys
  cases hgoes with
  | idle => exact h
  | clock time => exact ⟨h.injective, h.keys, h.numbered, h.told, h.demanded, h.stored⟩
  | caller hi hfree hkept htold hdrained =>
      exact h.of_caller hi hfree htold hkept.ids hkept.lastId hkeys
        fun jobId e he => by rwa [hkept.jobs] at he
  | deferral hi hfree hdeferral htold => exact h.of_deferral hi hfree hdeferral htold hkeys rfl rfl
  | poll hi hfree htold =>
      exact h.of_caller hi hfree htold rfl rfl hkeys fun jobId e he => ExpiringMap.entry?_of_read he
  | @search i l g st w' hl hbefore hafter hkept =>
      refine h.of_deferred hl hkept.ids hkept.lastId hkeys (fun e he => ?_)
        fun jobId e _ he => by rwa [hkept.jobs] at he
      rw [hkept.jobs] at he
      rw [h.value_eq hl he, Deferred.job_of_none hbefore, Deferred.job_of_none hafter]
      rfl
  | @recording i l g st outcome w' hl hbefore hafter hrecording =>
      refine h.of_deferred hl hrecording.ids hrecording.lastId hkeys (fun e he => ?_)
        fun jobId e hne he => ?_
      · rw [hrecording.jobs] at he
        obtain ⟨old, hold, hvalue⟩ := Jobs.entry?_complete_self he
        rw [hvalue, h.value_eq hl hold, Deferred.job_of_none hbefore, Deferred.job_of_ok hafter]
        rfl
      · rw [hrecording.jobs] at he
        exact Jobs.entry?_of_complete h.keys hne he
  | callback hcallback => exact ⟨h.injective, h.keys, h.numbered, h.told, h.demanded, h.stored⟩

/-- Look-ups stay in their places, and are only given more. -/
def Grows (s s' : Scene) : Prop :=
  ∀ (i : Nat) (l : Deferred), s.deferred[i]? = some l →
    ∃ l', s'.deferred[i]? = some l' ∧ l.Continues l'

theorem Grows.refl (s : Scene) : s.Grows s :=
  fun _ l hl => ⟨l, hl, l.stand, [], by rw [List.append_nil]⟩

theorem Grows.trans {s₁ s₂ s₃ : Scene} (h : s₁.Grows s₂) (h' : s₂.Grows s₃) : s₁.Grows s₃ := by
  intro i l hl
  obtain ⟨l', hl', _, given, rfl⟩ := h i l hl
  obtain ⟨l'', hl'', st, given', rfl⟩ := h' i _ hl'
  exact ⟨_, hl'', st, given ++ given', by rw [List.append_assoc]⟩

theorem Grows.place {i : Nat} {l : Deferred} (hl : s.deferred[i]? = some l) (g : Given)
    (st : Stand Unit) (w' : World) (callbacks : List String) :
    s.Grows ⟨w', s.callers, place i (l.next g st) s.deferred, callbacks⟩ := by
  intro k m hm
  have hi := Nat.le_of_lt (List.getElem?_eq_some_iff.mp hl).1
  rw [getElem?_place hi]
  split
  · next hk =>
      rw [hk, hl] at hm
      cases hm
      exact ⟨_, rfl, st, [g], rfl⟩
  · exact Grows.refl s k m hm

theorem Goes.grows (h : s.Goes config s') : s.Grows s' := by
  cases h with
  | deferral hi hfree hdeferral htold =>
      intro k l hl
      have hk := (List.getElem?_eq_some_iff.mp hl).1
      exact ⟨l, by rw [List.getElem?_append_left hk, hl], l.stand, [], by rw [List.append_nil]⟩
  | search hl hbefore hafter hkept => exact .place hl _ _ _ _
  | recording hl hbefore hafter hrecording => exact .place hl _ _ _ _
  | _ => exact .refl s

/-- A job that was handed out and is not stored any more. -/
structure Gone (jobId : String) (s : Scene) : Prop where
  known : ∃ l ∈ s.deferred, l.jobId = jobId
  absent : s.world.memory.jobs.entry? jobId = none

/-- No happening stores a job again: a new job has a new identity, and an outcome is noted only if
its job is still there. -/
theorem Gone.goes {jobId : String} (h : s.Gone jobId) (haccounted : s.Accounted config)
    (hgoes : s.Goes config s') : s'.Gone jobId := by
  have hknown : ∃ l ∈ s'.deferred, l.jobId = jobId := by
    obtain ⟨l, hl, hjob⟩ := h.known
    obtain ⟨i, hi⟩ := List.mem_iff_getElem?.mp hl
    obtain ⟨_, hl', _, _, rfl⟩ := hgoes.grows i l hi
    exact ⟨_, List.mem_of_getElem? hl', hjob⟩
  have hnever {jobs : Jobs}
      (hjobs : ∀ e, jobs.entry? jobId = some e →
        ∃ old, s.world.memory.jobs.entry? jobId = some old) :
      jobs.entry? jobId = none := by
    cases he : jobs.entry? jobId with
    | none => rfl
    | some e =>
        obtain ⟨old, hold⟩ := hjobs e he
        rw [h.absent] at hold
        cases hold
  refine ⟨hknown, ?_⟩
  cases hgoes with
  | idle => exact h.absent
  | clock time => exact h.absent
  | caller hi hfree hkept htold hdrained =>
      simp only [hkept.jobs]
      exact h.absent
  | deferral hi hfree hdeferral htold =>
      obtain ⟨l, hl, hjob⟩ := h.known
      have hne := haccounted.ne_of_next hl
      rw [hjob, ← hdeferral.jobId_eq] at hne
      simp only [hdeferral.jobs]
      exact hnever fun e he => ⟨e, ExpiringMap.entry?_of_set haccounted.keys hne he⟩
  | poll hi hfree htold => exact hnever fun e he => ⟨e, ExpiringMap.entry?_of_read he⟩
  | search hl hbefore hafter hkept =>
      simp only [hkept.jobs]
      exact h.absent
  | @recording i l g st outcome w' hl hbefore hafter hrecording =>
      simp only [hrecording.jobs]
      refine hnever fun e he => ?_
      by_cases hjob : jobId = l.jobId
      · subst hjob
        obtain ⟨old, hold, _⟩ := Jobs.entry?_complete_self he
        exact ⟨old, hold⟩
      · exact ⟨e, Jobs.entry?_of_complete haccounted.keys hjob he⟩
  | callback hcallback => exact h.absent

/-- What a caller is answered who comes now and polls a job. -/
def polled (config : Config) (s : Scene) (jobId : String) : Option (Except Failure Answer) :=
  ((s.step config (.demand (.poll jobId))).callers[s.callers.length]?).bind (·.stand.result?)

theorem polled_eq (config : Config) (s : Scene) (jobId : String) :
    s.polled config jobId =
      some (pollResult (s.world.memory.jobs.read s.world.clock jobId).1) := by
  simp only [polled, Scene.step, turnOfCaller, Scene.turn, turn_poll,
    getElem?_place (Nat.le_refl _), if_true, Option.bind_some]
  rfl

theorem jobs_step_poll (config : Config) (s : Scene) (jobId : String) :
    (s.step config (.demand (.poll jobId))).world.memory.jobs =
      (s.world.memory.jobs.read s.world.clock jobId).2 := by
  simp only [Scene.step, turnOfCaller, Scene.turn, turn_poll]

theorem Gone.polled_eq {jobId : String} (h : s.Gone jobId) :
    s.polled config jobId = some (.error (.missing .lookupJob)) := by
  rw [Scene.polled_eq]
  rcases ExpiringMap.read_cases s.world.memory.jobs s.world.clock jobId with
    ⟨e, he, _⟩ | ⟨_, hread, _⟩
  · rw [h.absent] at he
    cases he
  · rw [hread]
    rfl

theorem polled_cases (config : Config) (s : Scene) (jobId : String) :
    s.polled config jobId = some (.error (.missing .lookupJob)) ∨
      ∃ j, s.polled config jobId = some (.ok (.job j)) ∧ s.job? jobId = some j := by
  rw [polled_eq]
  rcases ExpiringMap.read_cases s.world.memory.jobs s.world.clock jobId with
    ⟨e, he, _, hread⟩ | ⟨_, hread, _⟩
  · rw [hread, job?, he]
    exact .inr ⟨e.value, rfl, rfl⟩
  · rw [hread]
    exact .inl rfl

/-- After a poll that found no job, the job is gone. -/
theorem gone_of_polled {jobId : String} (hknown : ∃ l ∈ s.deferred, l.jobId = jobId)
    (hproper : s.Proper config)
    (h : s.polled config jobId = some (.error (.missing .lookupJob))) :
    (s.step config (.demand (.poll jobId))).Gone jobId := by
  obtain ⟨l, hl, hjob⟩ := hknown
  obtain ⟨i, hi⟩ := List.mem_iff_getElem?.mp hl
  obtain ⟨_, hl', _, _, rfl⟩ := (hproper.step (.demand (.poll jobId))).1.grows i l hi
  refine ⟨⟨_, List.mem_of_getElem? hl', hjob⟩, ?_⟩
  rw [jobs_step_poll]
  rw [polled_eq] at h
  rcases ExpiringMap.read_cases s.world.memory.jobs s.world.clock jobId with
    ⟨e, he, _, hread⟩ | ⟨_, hread, hnone, _⟩
  · rw [hread] at h
    cases h
  · rw [hread]
    exact hnone

/-- When a caller is told of a job, the job is pending. -/
theorem Goes.pending_of_toldOf (hgoes : s.Goes config s') {i : Nat} {c : Caller} {jobId : String}
    (hc : s'.callers[i]? = some c) (htold : toldOf jobId c.stand)
    (hbefore : ∀ c₀, s.callers[i]? = some c₀ → c₀.stand.result? = none) :
    ∃ j, s'.job? jobId = some j ∧ j.status = .pending := by
  rcases hgoes.newly_ended hc (result?_of_toldOf htold) hbefore with
    ⟨hnot, _⟩ | ⟨_, _, name, jobId', _, htold', hjob⟩
  · exact absurd htold (hnot jobId)
  · cases htold.symm.trans htold'
    exact ⟨_, hjob, rfl⟩

theorem accounted_start (config : Config) {ids : Nat → String} (hids : Function.Injective ids)
    (clock : Double) : (start ids clock).Accounted config where
  injective := hids
  keys := List.nodup_nil
  numbered := rfl
  told _ _ _ hc := by cases hc
  demanded _ ho := absurd ho List.not_mem_nil
  stored _ _ hj := by cases hj

/-- A caller was told of a job exactly if it is the job of the look-up deferred for him. -/
theorem Accounted.told_iff (h : s.Accounted config) (jobId : String) (i : Nat) :
    (∃ c, s.callers[i]? = some c ∧ toldOf jobId c.stand) ↔
      ∃ l ∈ s.deferred, l.jobId = jobId ∧ l.caller = i := by
  constructor
  · rintro ⟨c, hc, htold⟩
    obtain ⟨o, ho, hjob, hcaller⟩ := h.told i c jobId hc htold
    obtain ⟨l, hl, rfl⟩ := List.mem_map.mp ho
    exact ⟨l, hl, hjob, hcaller⟩
  · rintro ⟨l, hl, rfl, rfl⟩
    obtain ⟨c, _, hc, _, htold⟩ := h.demanded l.origin (List.mem_map_of_mem hl)
    exact ⟨c, hc, htold⟩

/-- Whatever happens next, a job changes at most from pending to an outcome. -/
theorem Accounted.job?_play (h : s.Accounted config) (hproper : s.Proper config)
    (moves : List Move) {jobId : String} {j j' : Job} (hj : s.job? jobId = some j)
    (hj' : (s.play config moves).job? jobId = some j') :
    j'.id = j.id ∧ j'.name = j.name ∧ (j'.status = j.status ∨ j.status = .pending) := by
  obtain ⟨_, haccounted, hgrows⟩ := hproper.play_induction
    (P := fun s' => s'.Accounted config ∧ s.Grows s') ⟨h, .refl s⟩
    (fun _ h hgoes => ⟨h.1.goes hgoes, h.2.trans hgoes.grows⟩) moves
  obtain ⟨l, hl, hjob, rfl⟩ := h.stored jobId j hj
  obtain ⟨m, hm, hmjob, rfl⟩ := haccounted.stored jobId j' hj'
  obtain ⟨i, hi⟩ := List.mem_iff_getElem?.mp hl
  obtain ⟨k, hk⟩ := List.mem_iff_getElem?.mp hm
  obtain ⟨l', hl', hcontinues⟩ := hgrows i l hi
  have hsame : l'.jobId = m.jobId := by
    obtain ⟨_, _, rfl⟩ := hcontinues
    exact hjob.trans hmjob.symm
  cases haccounted.eq_of_jobId hl' hk hsame
  rw [hk] at hl'
  cases hl'
  exact hcontinues.job

/-- Whatever happens after a poll found no job of a look-up, no poll finds it. -/
theorem Accounted.polled_play (h : s.Accounted config) (hproper : s.Proper config)
    (moves : List Move) {jobId : String} (hknown : ∃ l ∈ s.deferred, l.jobId = jobId)
    (hpolled : s.polled config jobId = some (.error (.missing .lookupJob))) :
    ((s.step config (.demand (.poll jobId))).play config moves).polled config jobId =
      some (.error (.missing .lookupJob)) := by
  obtain ⟨hgoes, hstep⟩ := hproper.step (.demand (.poll jobId))
  obtain ⟨_, _, hgone⟩ := hstep.play_induction
    (P := fun s' => s'.Accounted config ∧ s'.Gone jobId)
    ⟨h.goes hgoes, gone_of_polled hknown hproper hpolled⟩
    (fun _ h hgoes => ⟨h.1.goes hgoes, h.2.goes h.1 hgoes⟩) moves
  exact hgone.polled_eq

/-- The life of jobs, as it is seen in a scene. -/
structure LifeOfJobs (config : Config) (s : Scene) : Prop where
  /-- No two deferred look-ups have the same job. -/
  nodup : (s.deferred.map (·.jobId)).Nodup
  /-- A caller was told of a job exactly if it is the job of the look-up deferred for him. -/
  told_iff : ∀ jobId i, (∃ c, s.callers[i]? = some c ∧ toldOf jobId c.stand) ↔
    ∃ l ∈ s.deferred, l.jobId = jobId ∧ l.caller = i
  /-- A deferred look-up is for the organization and the name that its caller demanded. -/
  demanded : ∀ l ∈ s.deferred, ∃ c integrationId, s.callers[l.caller]? = some c ∧
    c.demand = .lookup l.organizationId integrationId l.name
  /-- When a caller is told of a job, the job is pending. -/
  pending : ∀ (m : Move) (i : Nat) (c : Caller) (jobId : String),
    (s.step config m).callers[i]? = some c → toldOf jobId c.stand →
    (∀ c₀, s.callers[i]? = some c₀ → c₀.stand.result? = none) →
    ∃ j, (s.step config m).job? jobId = some j ∧ j.status = .pending
  /-- A stored job has the identity and the name of its look-up, and stands as this look-up's own
  replies and the times at which they came make it stand. -/
  stored : ∀ jobId j, s.job? jobId = some j → ∃ l ∈ s.deferred, l.jobId = jobId ∧ j = l.job config
  /-- A poll is answered with the stored job, or that there is none. -/
  polled : ∀ jobId, s.polled config jobId = some (.error (.missing .lookupJob)) ∨
    ∃ j, s.polled config jobId = some (.ok (.job j)) ∧ s.job? jobId = some j
  /-- Whatever happens next, a job keeps its identity and its name, and changes at most from
  pending to an outcome. -/
  changes : ∀ (moves : List Move) (jobId : String) (j j' : Job), s.job? jobId = some j →
    (s.play config moves).job? jobId = some j' →
    j'.id = j.id ∧ j'.name = j.name ∧ (j'.status = j.status ∨ j.status = .pending)
  /-- Whatever happens after a poll found no job of which a caller was told, no poll finds it. -/
  gone : ∀ (moves : List Move) (i : Nat) (c : Caller) (jobId : String),
    s.callers[i]? = some c → toldOf jobId c.stand →
    s.polled config jobId = some (.error (.missing .lookupJob)) →
    ((s.step config (.demand (.poll jobId))).play config moves).polled config jobId =
      some (.error (.missing .lookupJob))

end Scene

/-- Where identities are never made twice, jobs live as they should in every scene that moves lead
to. -/
theorem lifeOfJobs_play (config : Config) {ids : Nat → String} (hids : Function.Injective ids)
    (clock : Double) (moves : List Move) :
    ((Scene.start ids clock).play config moves).LifeOfJobs config := by
  obtain ⟨hproper, haccounted⟩ := (Scene.proper_start config ids clock).play_induction
    (Scene.accounted_start config hids clock) (fun _ h hgoes => h.goes hgoes) moves
  refine ⟨haccounted.nodup, haccounted.told_iff, fun l hl => ?_,
    fun m i c jobId => (hproper.step m).1.pending_of_toldOf, haccounted.stored,
    Scene.polled_cases config _, fun moves' jobId j j' => haccounted.job?_play hproper moves',
    fun moves' i c jobId hc htold => ?_⟩
  · obtain ⟨c, integrationId, hc, hdemand, _⟩ :=
      haccounted.demanded l.origin (List.mem_map_of_mem hl)
    exact ⟨c, integrationId, hc, hdemand⟩
  · obtain ⟨l, hl, hjob, _⟩ := (haccounted.told_iff jobId i).mp ⟨c, hc, htold⟩
    exact haccounted.polled_play hproper moves' ⟨l, hl, hjob⟩

theorem lifeOfJobs_lateMoves :
    Function.Injective letters ∧
      ((Scene.start letters 0).play hurried lateMoves).LifeOfJobs hurried :=
  ⟨letters_injective, lifeOfJobs_play hurried letters_injective 0 lateMoves⟩

end AlertRelay.Channel
