import AlertRelay.Proofs.Lookup.Entries
import AlertRelay.Proofs.Lookup.Turns

/-!
What a move can do.

`Scene.Goes` lists all that can happen to a scene in one move, and `Scene.Proper.step` shows that
nothing else does.  Whatever such a happening preserves, a run of moves preserves
(`Scene.Proper.play_induction`).  With a move the program of a caller may end
(`Scene.Goes.newly_ended`).
-/

namespace AlertRelay.Channel

section Place

variable {α : Type} {i : Nat} {x y : α} {l : List α}

theorem getElem?_place (hi : i ≤ l.length) (j : Nat) :
    (place i x l)[j]? = if j = i then some x else l[j]? := by
  have hlength : (l.take i).length = i := List.length_take_of_le hi
  unfold place
  rcases Nat.lt_trichotomy j i with hlt | rfl | hgt
  · rw [List.getElem?_append_left (by omega), List.getElem?_take, if_pos hlt,
      if_neg (Nat.ne_of_lt hlt)]
  · rw [List.getElem?_append_right (by omega), hlength, Nat.sub_self, if_pos rfl]
    rfl
  · obtain ⟨k, rfl⟩ : ∃ k, j = i + 1 + k := ⟨j - i - 1, by omega⟩
    rw [List.getElem?_append_right (by omega), hlength, if_neg (by omega),
      show i + 1 + k - i = k + 1 by omega, List.getElem?_cons_succ, List.getElem?_drop]

theorem eq_take_cons_drop (h : l[i]? = some y) : l = l.take i ++ y :: l.drop (i + 1) := by
  obtain ⟨hi, hy⟩ := List.getElem?_eq_some_iff.mp h
  rw [← hy, ← List.drop_eq_getElem_cons hi, List.take_append_drop]

theorem map_place {β : Type} {f : α → β} (h : l[i]? = some y) (hf : f x = f y) :
    (place i x l).map f = l.map f := by
  conv => rhs; rw [eq_take_cons_drop h]
  rw [place, List.map_append, List.map_append, List.map_cons, List.map_cons, hf]

theorem countP_place (h : l[i]? = some y) (p : α → Bool) :
    (place i x l).countP p + (if p y then 1 else 0) = l.countP p + (if p x then 1 else 0) := by
  conv => rhs; rw [eq_take_cons_drop h]
  simp only [place, List.countP_append, List.countP_cons]
  omega

theorem mem_place (h : y ∈ place i x l) : y = x ∨ y ∈ l := by
  rcases List.mem_append.mp h with h | h
  · exact .inr (List.mem_of_mem_take h)
  · rcases List.mem_cons.mp h with rfl | h
    · exact .inl rfl
    · exact .inr (List.mem_of_mem_drop h)

end Place

namespace Scene

/-- A scene in which no work is left over, callers have left to do what belongs to their demands,
and deferred look-ups follow the search for their outcome. -/
structure Proper (config : Config) (s : Scene) : Prop where
  work : s.world.work = []
  callers : ∀ c ∈ s.callers, ∀ a p, c.stand.resume? a = some p → c.demand.Rest config p
  deferred : ∀ l ∈ s.deferred, l.Follows config

/-- All that can happen in one move. -/
inductive Goes (config : Config) (s : Scene) : Scene → Prop
  /-- Nothing happens. -/
  | idle : Goes config s s
  /-- Time passes. -/
  | clock (time : Double) : Goes config s { s with world := { s.world with clock := time } }
  /-- A caller comes or goes on, and no job is touched. -/
  | caller {i : Nat} {d : Demand} {st : Stand Answer} {w' : World} (hi : i ≤ s.callers.length)
      (hfree : ∀ c, s.callers[i]? = some c → c.stand.result? = none)
      (hkept : s.world.KeptIn w') (htold : ∀ jobId, ¬ toldOf jobId st)
      (hdrained : d = .drain → ∀ r, st.result? = some r →
        r = .ok .drained ∧ s.world.memory.inFlight = []) :
      Goes config s ⟨w', place i ⟨d, st⟩ s.callers, s.deferred, s.callbacks⟩
  /-- The look-up of a caller is deferred. -/
  | deferral {i : Nat} {organizationId integrationId name jobId : String}
      {workspace : Integration.Workspace} {st : Stand Answer} {w' : World}
      (hi : i ≤ s.callers.length) (hfree : ∀ c, s.callers[i]? = some c → c.stand.result? = none)
      (h : Deferral config jobId organizationId workspace name s.world w')
      (htold : toldOf jobId st) :
      Goes config s ⟨{ w' with work := [] },
        place i ⟨.lookup organizationId integrationId name, st⟩ s.callers,
        s.deferred ++ [⟨i, jobId, organizationId, workspace, name,
          .givingWay (finishLookup config jobId organizationId workspace name), []⟩],
        s.callbacks⟩
  /-- A caller polls a job. -/
  | poll {i : Nat} {jobId : String} {st : Stand Answer} (hi : i ≤ s.callers.length)
      (hfree : ∀ c, s.callers[i]? = some c → c.stand.result? = none)
      (htold : ∀ jobId, ¬ toldOf jobId st) :
      Goes config s ⟨{ s.world with memory := { s.world.memory with
          jobs := (s.world.memory.jobs.read s.world.clock jobId).2 } },
        place i ⟨.poll jobId, st⟩ s.callers, s.deferred, s.callbacks⟩
  /-- A deferred look-up goes on. -/
  | search {i : Nat} {l : Deferred} {g : Given} {st : Stand Unit} {w' : World}
      (hl : s.deferred[i]? = some l) (hbefore : (l.alone config).result? = none)
      (hafter : ((l.next g st).alone config).result? = none) (hkept : s.world.KeptIn w') :
      Goes config s ⟨w', s.callers, place i (l.next g st) s.deferred, s.callbacks⟩
  /-- A deferred look-up ends, and its outcome is noted. -/
  | recording {i : Nat} {l : Deferred} {g : Given} {st : Stand Unit} {outcome : JobOutcome}
      {w' : World} (hl : s.deferred[i]? = some l) (hbefore : (l.alone config).result? = none)
      (hafter : ((l.next g st).alone config).result? = some (.ok outcome))
      (h : Deferred.Recording config l.jobId outcome s.world w') :
      Goes config s ⟨w', s.callers, place i (l.next g st) s.deferred, s.callbacks ++ [l.jobId]⟩
  /-- It is noted that a look-up is not in flight any more. -/
  | callback {i : Nat} {jobId : String} (h : s.callbacks[i]? = some jobId) :
      Goes config s ⟨{ s.world with memory := { s.world.memory with
          inFlight := s.world.memory.inFlight.erase jobId } },
        s.callers, s.deferred, s.callbacks.eraseIdx i⟩

theorem resume?_of_goOn? {α : Type} {s : Scene} {st : Stand α} {a : Arrival} {p : Program α}
    (h : s.goOn? st a = some p) : st.resume? a = some p := by
  cases st with
  | awaiting jobIds next =>
      simp only [goOn?] at h
      split at h
      · exact h
      · cases h
  | _ => exact h

theorem result?_of_resume? {α : Type} {st : Stand α} {a : Arrival} {p : Program α}
    (h : st.resume? a = some p) : st.result? = none := by
  cases hresult : st.result? with
  | none => rfl
  | some r =>
      rw [Stand.resume?_ended hresult] at h
      cases h

section Step

variable {config : Config} {s : Scene}

/-- A turn of a caller. -/
theorem Proper.turnOfCaller (h : s.Proper config) {i : Nat} (hi : i ≤ s.callers.length)
    (hfree : ∀ c, s.callers[i]? = some c → c.stand.result? = none) {d : Demand}
    {p : Program Answer} (hp : d.Rest config p) :
    s.Goes config (s.turnOfCaller config i d p) ∧ (s.turnOfCaller config i d p).Proper config := by
  obtain ⟨hturned, hrest⟩ := hp.turned s.world
  unfold Scene.turnOfCaller Scene.turn
  generalize p.turn s.world = t at hturned hrest
  obtain ⟨st, w'⟩ := t
  have hcallers : ∀ c ∈ place i ⟨d, st⟩ s.callers, ∀ a q, c.stand.resume? a = some q →
      c.demand.Rest config q := by
    intro c hc
    rcases mem_place hc with rfl | hc
    · exact hrest
    · exact h.callers c hc
  have hquiet (hwork : w'.work = []) :
      (⟨{ w' with work := [] }, place i ⟨d, st⟩ s.callers,
        s.deferred ++ w'.work.reverse.filterMap (Deferred.ofWork? config i), s.callbacks⟩ : Scene) =
      ⟨w', place i ⟨d, st⟩ s.callers, s.deferred, s.callbacks⟩ := by
    obtain ⟨clock, ids, lastId, memory, events, work⟩ := w'
    cases hwork
    simp only [List.reverse_nil, List.filterMap_nil, List.append_nil]
  cases hturned with
  | kept hkept htold hdrained =>
      have hwork : w'.work = [] := hkept.work.trans h.work
      simp only [hquiet hwork]
      exact ⟨.caller hi hfree hkept htold hdrained, ⟨hwork, hcallers, h.deferred⟩⟩
  | @deferred organizationId integrationId name jobId workspace _ _ hdeferral htold =>
      have hwork : w'.work = [.lookup jobId organizationId workspace name] := by
        rw [hdeferral.work, h.work]
      have hdeferred : w'.work.reverse.filterMap (Deferred.ofWork? config i) =
          [⟨i, jobId, organizationId, workspace, name,
            .givingWay (finishLookup config jobId organizationId workspace name), []⟩] := by
        rw [hwork]
        rfl
      simp only [hdeferred]
      refine ⟨.deferral hi hfree hdeferral htold, ⟨rfl, hcallers, fun l hl => ?_⟩⟩
      rcases List.mem_append.mp hl with hl | hl
      · exact h.deferred l hl
      · rw [List.mem_singleton.mp hl]
        exact Deferred.follows_start config i _ _ _ _
  | polled htold =>
      simp only [hquiet h.work]
      exact ⟨.poll hi hfree htold, ⟨h.work, hcallers, h.deferred⟩⟩

/-- A turn of a deferred look-up. -/
theorem Proper.turnOfDeferred (h : s.Proper config) {i : Nat} {l : Deferred}
    (hl : s.deferred[i]? = some l) {a : Arrival} {p : Program Unit}
    (hp : l.stand.resume? a = some p) :
    s.Goes config (s.turnOfDeferred config i l a p) ∧
      (s.turnOfDeferred config i l a p).Proper config := by
  obtain ⟨hbefore, hfollows, hcases⟩ :=
    (h.deferred l (List.mem_of_getElem? hl)).turn hp s.world
  unfold Scene.turnOfDeferred Scene.turn
  generalize p.turn s.world = t at hfollows hcases
  obtain ⟨st, w'⟩ := t
  have hdeferred : ∀ m ∈ place i (l.next ⟨a, s.world.clock⟩ st) s.deferred, m.Follows config := by
    intro m hm
    rcases mem_place hm with rfl | hm
    · exact hfollows
    · exact h.deferred m hm
  have hwork : w'.work = [] := by
    rcases hcases with ⟨_, hkept⟩ | ⟨_, _, hrecording⟩
    · exact hkept.work.trans h.work
    · exact hrecording.work.trans h.work
  have hscene (callbacks : List String) :
      (⟨{ w' with work := [] }, s.callers,
        place i (l.next ⟨a, s.world.clock⟩ st)
          (s.deferred ++ w'.work.reverse.filterMap (Deferred.ofWork? config l.caller)),
        callbacks⟩ : Scene) =
      ⟨w', s.callers, place i (l.next ⟨a, s.world.clock⟩ st) s.deferred, callbacks⟩ := by
    obtain ⟨clock, ids, lastId, memory, events, work⟩ := w'
    cases hwork
    simp only [List.reverse_nil, List.filterMap_nil, List.append_nil]
  refine ⟨?_, ⟨rfl, h.callers, ?_⟩⟩
  · rcases hcases with ⟨hafter, hkept⟩ | ⟨outcome, hafter, hrecording⟩
    · have hopen : st.result? = none := (hfollows.waits hafter).1
      have hgoes : s.Goes config
          ⟨w', s.callers, place i (l.next ⟨a, s.world.clock⟩ st) s.deferred, s.callbacks⟩ :=
        .search hl hbefore hafter hkept
      rw [← hscene] at hgoes
      simp only [hopen]
      exact hgoes
    · have hended : st.result? = some (.ok ()) := (hfollows.ends _ hafter).1
      have hgoes : s.Goes config ⟨w', s.callers, place i (l.next ⟨a, s.world.clock⟩ st) s.deferred,
          s.callbacks ++ [l.jobId]⟩ :=
        .recording hl hbefore hafter hrecording
      rw [← hscene] at hgoes
      simp only [hended]
      exact hgoes
  · simp only [hwork, List.reverse_nil, List.filterMap_nil, List.append_nil]
    exact hdeferred

/-- What a move does is one of all that can happen, and leaves a proper scene. -/
theorem Proper.step (h : s.Proper config) (m : Move) :
    s.Goes config (s.step config m) ∧ (s.step config m).Proper config := by
  cases m with
  | demand d =>
      refine h.turnOfCaller (Nat.le_refl _) (fun c hc => ?_) (d.rest_program config)
      rw [List.getElem?_eq_none (Nat.le_refl _)] at hc
      cases hc
  | clock time => exact ⟨.clock time, ⟨h.work, h.callers, h.deferred⟩⟩
  | caller i a =>
      simp only [Scene.step]
      cases hc : s.callers[i]? with
      | none => exact ⟨.idle, h⟩
      | some c =>
          simp only
          cases hp : s.goOn? c.stand a with
          | none => exact ⟨.idle, h⟩
          | some p =>
              have hresume := resume?_of_goOn? hp
              obtain ⟨hi, _⟩ := List.getElem?_eq_some_iff.mp hc
              refine h.turnOfCaller (Nat.le_of_lt hi) (fun c' hc' => ?_)
                (h.callers c (List.mem_of_getElem? hc) a p hresume)
              rw [hc] at hc'
              cases hc'
              exact result?_of_resume? hresume
  | deferred i a =>
      simp only [Scene.step]
      cases hl : s.deferred[i]? with
      | none => exact ⟨.idle, h⟩
      | some l =>
          simp only
          cases hp : s.goOn? l.stand a with
          | none => exact ⟨.idle, h⟩
          | some p => exact h.turnOfDeferred hl (resume?_of_goOn? hp)
  | callback i =>
      simp only [Scene.step]
      cases hcallback : s.callbacks[i]? with
      | none => exact ⟨.idle, h⟩
      | some jobId => exact ⟨.callback hcallback, ⟨h.work, h.callers, h.deferred⟩⟩

theorem proper_start (config : Config) (ids : Nat → String) (clock : Double) :
    (start ids clock).Proper config :=
  ⟨rfl, fun _ hc => absurd hc List.not_mem_nil, fun _ hl => absurd hl List.not_mem_nil⟩

/-- What every happening in a proper scene preserves, a run of moves preserves. -/
theorem Proper.play_induction {P : Scene → Prop} (h : s.Proper config) (hs : P s)
    (hgoes : ∀ {s s' : Scene}, s.Proper config → P s → s.Goes config s' → P s')
    (moves : List Move) : (s.play config moves).Proper config ∧ P (s.play config moves) := by
  induction moves generalizing s with
  | nil => exact ⟨h, hs⟩
  | cons m moves ih =>
      obtain ⟨hstep, hproper⟩ := h.step m
      exact ih hproper (hgoes h hs hstep)

/-- No happening makes two entries with one key. -/
theorem Goes.keys_nodup {s' : Scene} (hgoes : s.Goes config s')
    (hkeys : s.world.memory.jobs.keys.Nodup) : s'.world.memory.jobs.keys.Nodup := by
  cases hgoes with
  | idle => exact hkeys
  | clock time => exact hkeys
  | caller hi hfree hkept htold hdrained =>
      simp only [hkept.jobs]
      exact hkeys
  | deferral hi hfree hdeferral htold =>
      simp only [hdeferral.jobs]
      exact ExpiringMap.keys_nodup_set hkeys _ _ _ _
  | poll hi hfree htold => exact ExpiringMap.keys_nodup_read hkeys _ _
  | search hl hbefore hafter hkept =>
      simp only [hkept.jobs]
      exact hkeys
  | recording hl hbefore hafter hrecording =>
      simp only [hrecording.jobs]
      exact Jobs.keys_nodup_complete hkeys
  | callback hcallback => exact hkeys

/-- A job that is found afterwards was found before, if its entry was there before. -/
theorem job?_of_job? {s' : Scene} {jobId : String} {j : Job}
    (hjobs : ∀ e, ExpiringMap.entry? s'.world.memory.jobs jobId = some e →
      s.world.memory.jobs.entry? jobId = some e)
    (hj : s'.job? jobId = some j) : s.job? jobId = some j := by
  obtain ⟨e, he, rfl⟩ := Option.map_eq_some_iff.mp hj
  rw [job?, hjobs e he]
  rfl

/-- The program of a caller ends with a move: he is not told of a job, and if he drains, nothing
is in flight; or he is told of a new job. -/
theorem Goes.newly_ended {s' : Scene} (hgoes : s.Goes config s') {i : Nat} {c : Caller}
    {r : Except Failure Answer} (hc : s'.callers[i]? = some c) (hr : c.stand.result? = some r)
    (hbefore : ∀ c₀, s.callers[i]? = some c₀ → c₀.stand.result? = none) :
    ((∀ jobId, ¬ toldOf jobId c.stand) ∧ (c.demand = .drain → r = .ok .drained ∧
        s.world.memory.inFlight = [] ∧ s'.world.memory.jobs = s.world.memory.jobs)) ∨
      ∃ organizationId integrationId name jobId,
        c.demand = .lookup organizationId integrationId name ∧ toldOf jobId c.stand ∧
          s'.job? jobId = some ⟨jobId, name, .pending⟩ := by
  have hsame (hcallers : s.callers[i]? = some c) : False := by
    rw [hbefore c hcallers] at hr
    cases hr
  cases hgoes with
  | caller hk hfree hkept htold hdrained =>
      rw [getElem?_place hk] at hc
      split at hc
      · cases hc
        refine .inl ⟨htold, fun hdemand => ?_⟩
        obtain ⟨hanswer, hempty⟩ := hdrained hdemand r hr
        exact ⟨hanswer, hempty, hkept.jobs⟩
      · exact (hsame hc).elim
  | deferral hk hfree hdeferral htold =>
      rw [getElem?_place hk] at hc
      split at hc
      · cases hc
        refine .inr ⟨_, _, _, _, rfl, htold, ?_⟩
        simp only [job?, hdeferral.jobs, Jobs.create, ExpiringMap.entry?_set_self, Option.map_some]
      · exact (hsame hc).elim
  | poll hk hfree htold =>
      rw [getElem?_place hk] at hc
      split at hc
      · cases hc
        exact .inl ⟨htold, fun hdemand => by cases hdemand⟩
      · exact (hsame hc).elim
  | _ => exact (hsame hc).elim

end Step

end Scene

end AlertRelay.Channel
