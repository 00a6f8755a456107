import AlertRelay.Proofs.Lookup.Entries
import AlertRelay.Proofs.Lookup.Turns
import AlertRelay.Proofs.Search.Identities

/-!
What callers and jobs are told of a resolved name.

A name is resolved while a caller waits, or in the background for a job.  Either way the resolution
ends with an outcome or a failure, and `classified` is the table of what is made of each: what the
caller is told, and how the job ends.  The two columns are filled by two case analyses in the
program, in different orders; both come down to the table (`conclude_finding`, `turn_jobEnd`).  Main
statement: whatever a resolution is given until it ends, the caller and the job are told what the
table says (`classified_alike`).
-/

namespace AlertRelay.Channel

open Program

/-- What a caller is told: an answer, that his look-up goes on in the background, or a failure. -/
inductive Told where
  | answer (a : LookupAnswer)
  | deferred
  | failure (f : Failure)

/-- What is made of the end of a resolution: what a caller is told, and how a job ends. -/
structure Verdict where
  caller : Told
  job : JobOutcome

/-- What is made of each end of a resolution.  A name that several people go by is told with the
address of the workspace, to both alike; any other failure is told to the caller alone. -/
def classified (workspace : Integration.Workspace) : Except Failure Outcome → Verdict
  | .ok (.found kind id) => ⟨.answer (.resolved kind id), .success kind id⟩
  | .ok (.notFound kind) => ⟨.answer (.notFound kind), .notFound kind⟩
  | .ok (.timedOut _) => ⟨.deferred, .failed "timed_out" none⟩
  | .error (.duplicateName name none) =>
    let domain := workspace.metadata.domainName
    ⟨.failure (.duplicateName name domain),
      .failed "duplicate_display_name" (some (Slack.duplicateNameMessage name domain))⟩
  | .error f =>
    if f.duplicate?.isSome then
      let error := (hinted workspace f).toValue
      ⟨.failure (hinted workspace f),
        .failed ((error.get "code").text?.getD "") (error.get "message").text?⟩
    else ⟨.failure f, .failed "internal_error" none⟩

/-- What becomes of the result of a resolution in the workspace that it was made for. -/
def resolved (workspace : Integration.Workspace) : Except Failure Outcome → Except Failure Finding
  | .ok o => .ok o.finding
  | .error f => .error (hinted workspace f)

/-- What follows when the search of a resolution has been handed on. -/
def resolutionEnd (organizationId : String) (workspace : Integration.Workspace) (p : Patience) :
    Except Failure Outcome → Program Finding
  | .error f => .fail (hinted workspace f)
  | .ok o =>
    (log .debug "slack.channel_lookup.completed"
      [("organizationId", .text organizationId), ("integrationId", workspace.id),
        ("outcome", .text o.name), ("async", .bool (p == .background))]).bind fun _ =>
    .done o.finding

/-- A resolution in a workspace: two more turns hand its result on. -/
theorem carried_resolveIn {config : Config} (organizationId : String) {name : String}
    {workspace : Integration.Workspace} {p : Patience} {w w' : World} {cues : List Cue}
    {r : Except Failure Outcome}
    (h : (resolveName config name workspace.metadata.accessToken p).carried w cues =
      some (.ended r, w')) (b₁ b₂ : World) :
    ∃ v, (resolveIn config organizationId workspace name p).carried w
      (cues ++ Cue.turns [b₁, b₂]) = some (.ended (resolved workspace r), v) := by
  have hsearched := carried_attempt (carried_handedOn h [b₁, b₂])
  have hbind := carried_bind hsearched (resolutionEnd organizationId workspace p) []
  rw [List.append_nil] at hbind
  cases r with
  | ok o => exact ⟨_, hbind⟩
  | error f => exact ⟨_, hbind⟩

/-- And one more turn hands the finding on. -/
theorem carried_handedOn_resolveIn {config : Config} (organizationId : String) {name : String}
    {workspace : Integration.Workspace} {p : Patience} {w w' : World} {cues : List Cue}
    {r : Except Failure Outcome}
    (h : (resolveName config name workspace.metadata.accessToken p).carried w cues =
      some (.ended r, w')) (b₁ b₂ b₃ : World) :
    (handedOn 1 (resolveIn config organizationId workspace name p)).carried w
      (cues ++ Cue.turns [b₁, b₂, b₃]) = some (.ended (resolved workspace r), b₃) := by
  obtain ⟨v, hresolved⟩ := carried_resolveIn organizationId h b₁ b₂
  have hhanded := carried_handedOn hresolved [b₃]
  rw [List.append_assoc] at hhanded
  exact hhanded

section Table

variable {workspace : Integration.Workspace}

theorem hinted_of_not_duplicate {f : Failure} (h : f.duplicate? = none) :
    hinted workspace f = f := by
  simp only [hinted, h]

/-- With or without a hint, the cause is that several people go by a name, or it is not. -/
theorem isSome_duplicate?_hinted (workspace : Integration.Workspace) (f : Failure) :
    (hinted workspace f).duplicate?.isSome = f.duplicate?.isSome := by
  unfold hinted
  cases hduplicate : f.duplicate? with
  | none => simp only [hduplicate]
  | some told =>
      obtain ⟨name, domain⟩ := told
      by_cases hnone : (domain.filter (· != "")).isNone = true
      · simp only [if_pos hnone]
        rfl
      · simp only [if_neg hnone, hduplicate]

/-- How the table comes down to the program: the caller is told the failure with the hint, and the
job ends with what that failure tells of several people, if that is its cause. -/
theorem classified_error (workspace : Integration.Workspace) (f : Failure) :
    classified workspace (.error f) =
      ⟨.failure (hinted workspace f),
        (JobOutcome.ofDuplicate? (hinted workspace f)).getD (.failed "internal_error" none)⟩ := by
  have hrest (hduplicate : f.duplicate?.isSome = true) :
      (JobOutcome.ofDuplicate? (hinted workspace f)).getD (.failed "internal_error" none) =
        .failed (((hinted workspace f).toValue.get "code").text?.getD "")
          ((hinted workspace f).toValue.get "message").text? := by
    rw [← isSome_duplicate?_hinted workspace f] at hduplicate
    obtain ⟨told, htold⟩ := Option.isSome_iff_exists.mp hduplicate
    simp only [JobOutcome.ofDuplicate?, htold, Option.map_some, Option.getD_some]
  have hother (hduplicate : f.duplicate? = none) :
      (JobOutcome.ofDuplicate? (hinted workspace f)).getD (.failed "internal_error" none) =
        .failed "internal_error" none := by
    rw [hinted_of_not_duplicate hduplicate]
    simp only [JobOutcome.ofDuplicate?, hduplicate, Option.map_none, Option.getD_none]
  cases f with
  | duplicateName name domain =>
      cases domain with
      | none => rfl
      | some domain => rw [hrest rfl]; rfl
  | foreign v =>
      cases hduplicate : (Failure.foreign v).duplicate? with
      | none =>
          rw [hother hduplicate, hinted_of_not_duplicate hduplicate]
          simp only [classified, hduplicate, Option.isSome_none, Bool.false_eq_true, if_false]
      | some told =>
          have hsome : (Failure.foreign v).duplicate?.isSome = true := by rw [hduplicate]; rfl
          rw [hrest hsome]
          simp only [classified, if_pos hsome]
  | _ => rfl

/-- What was found has an identity. -/
def Identified (r : Except Failure Outcome) : Prop :=
  ∀ kind, r ≠ .ok (.found kind "")

theorem found?_of_identified {kind : Kind} {id : String} (h : Identified (.ok (.found kind id))) :
    (Outcome.found kind id).finding.found? = some id := by
  have hid : id ≠ "" := by
    rintro rfl
    exact h kind rfl
  simp only [Finding.found?, Outcome.finding, Option.filter_some, bne_iff_ne, ne_eq, hid,
    not_false_eq_true, if_true]

theorem outcome_of_finding {o : Outcome} (h : Identified (.ok o)) :
    JobOutcome.ofFinding o.finding = (classified workspace (.ok o)).job := by
  cases o with
  | found kind id =>
      simp only [JobOutcome.ofFinding, found?_of_identified h]
      rfl
  | notFound kind => rfl
  | timedOut kind => rfl

end Table

/-- Whether a caller whose program ends in a turn is told something, and what the turn does to the
world: nothing, unless the look-up is deferred. -/
def Told.Holds (config : Config) (organizationId : String) (workspace : Integration.Workspace)
    (name : String) (told : Told) (result : Except Failure Answer) (w w' : World) : Prop :=
  match told with
  | .answer a => result = .ok (.looked a) ∧ w' = w
  | .failure f => result = .error f ∧ w' = w
  | .deferred => ∃ jobId, result = .ok (.looked (.pending jobId)) ∧
      Deferral config jobId organizationId workspace name w w'

theorem conclude_finding (config : Config) (organizationId integrationId name : String)
    (workspace : Integration.Workspace) {o : Outcome} (h : Identified (.ok o)) (w : World) :
    ∃ result w', (conclude config organizationId integrationId name
        (workspace, o.finding)).turn w = (.ended result, w') ∧
      (classified workspace (.ok o)).caller.Holds config organizationId workspace name result w
        w' := by
  cases o with
  | found kind id =>
      rw [conclude_in_time config organizationId integrationId name workspace rfl,
        LookupAnswer.ofFinding, found?_of_identified h]
      exact ⟨_, _, rfl, rfl, rfl⟩
  | notFound kind => exact ⟨_, _, rfl, rfl, rfl⟩
  | timedOut kind =>
      have hlate : (Outcome.timedOut kind).finding.timedOut = true := rfl
      obtain ⟨w', hturn, hdeferral⟩ := deferral_conclude config organizationId integrationId name
        workspace hlate w
      exact ⟨_, w', hturn, _, rfl, hdeferral⟩

/-- What follows when a resolution in the background has been handed on. -/
def jobEnd (jobId : String) (workspace : Integration.Workspace) :
    Except Failure Finding → Program JobOutcome
  | .ok finding => .done (.ofFinding finding)
  | .error f => jobFailure jobId workspace f

theorem turn_jobEnd (jobId : String) (workspace : Integration.Workspace)
    {r : Except Failure Outcome} (h : Identified r) (w : World) :
    ∃ w', (jobEnd jobId workspace (resolved workspace r)).turn w =
        (.ended (.ok (classified workspace r).job), w') ∧ w.KeptIn w' := by
  cases r with
  | ok o =>
      refine ⟨w, ?_, .refl w⟩
      rw [← outcome_of_finding h]
      rfl
  | error f =>
      rw [classified_error]
      simp only [resolved, jobEnd, jobFailure]
      cases JobOutcome.ofDuplicate? (hinted workspace f) with
      | some outcome => exact ⟨w, rfl, .refl w⟩
      | none => exact ⟨_, rfl, (World.KeptIn.refl w).note _⟩

/-- A job that is still remembered is settled with the outcome that is noted. -/
theorem settled_of_recording {config : Config} {jobId : String} {outcome : JobOutcome}
    {w w' : World} (h : Deferred.Recording config jobId outcome w w') {job : Job}
    (hjob : (w.memory.jobs.read w.clock jobId).1 = some job) :
    (w'.memory.jobs.entry? jobId).map (·.value) =
      some ⟨jobId, job.name, .settled outcome⟩ := by
  rw [h.jobs]
  unfold Jobs.complete
  generalize w.memory.jobs.read w.clock jobId = found at hjob
  obtain ⟨found, jobs⟩ := found
  cases hjob
  simp only [ExpiringMap.entry?_set_self, Option.map_some]

/-- What a resolution that was carried to its end has found has an identity. -/
theorem identified_resolution {config : Config} {name token : String} {p : Patience}
    {w w' : World} {cues : List Cue} {r : Except Failure Outcome}
    (h : (resolveName config name token p).carried w cues = some (.ended r, w')) :
    Identified r := by
  rintro kind rfl
  exact identified_of_carried h rfl

/-- A caller's look-up: his workspace is found, the name is resolved, three turns hand the result
on, and in the last one he is told what the table says. -/
theorem carried_lookup {config : Config} {organizationId integrationId name : String}
    {workspace : Integration.Workspace} {r : Except Failure Outcome} {w₀ w₁ w₂ : World}
    {finding resolving : List Cue}
    (hfound : (Integration.findActive? config organizationId integrationId).carried w₀ finding =
      some (.ended (.ok (some workspace)), w₁))
    (hresolved : (resolveName config name workspace.metadata.accessToken .interactive).carried w₁
      resolving = some (.ended r, w₂)) (b₁ b₂ b₃ : World) :
    ∃ result w₃, ((Demand.lookup organizationId integrationId name).program config).carried w₀
        (finding ++ (resolving ++ Cue.turns [b₁, b₂, b₃])) = some (.ended result, w₃) ∧
      (classified workspace r).caller.Holds config organizationId workspace name result b₃ w₃ := by
  have hhanded := carried_handedOn_resolveIn organizationId hresolved b₁ b₂ b₃
  have hidentified := identified_resolution hresolved
  have hprogram : (Demand.lookup organizationId integrationId name).program config =
      (Integration.findActive? config organizationId integrationId).bind fun found =>
        (Integration.orMissing .integration found).bind fun workspace =>
          (handedOn 1 (resolveIn config organizationId workspace name .interactive)).bind
            fun finding =>
              conclude config organizationId integrationId name (workspace, finding) := by
    rw [program_lookup]
    simp only [tryLookup, Bind.bind, bind_assoc]
    rfl
  rw [hprogram, carried_bind hfound]
  change ∃ result w₃, ((handedOn 1 (resolveIn config organizationId workspace name
    .interactive)).bind fun finding => conclude config organizationId integrationId name
      (workspace, finding)).carried w₁ _ = _ ∧ _
  cases r with
  | error f =>
      rw [carried_bind_error hhanded, classified_error]
      exact ⟨_, _, rfl, rfl, rfl⟩
  | ok o =>
      obtain ⟨result, w₃, hturn, hholds⟩ := conclude_finding config organizationId integrationId
        name workspace hidentified b₃
      have hconcluded := carried_bind hhanded (fun finding =>
        conclude config organizationId integrationId name (workspace, finding)) []
      rw [List.append_nil] at hconcluded
      refine ⟨result, w₃, ?_, hholds⟩
      rw [hconcluded, Program.carried, hturn]
      rfl

/-- A look-up in the background: the name is resolved, three turns hand the result on, and in the
last one the job ends as the table says. -/
theorem carried_finishLookup {config : Config} (organizationId : String) {name : String}
    {workspace : Integration.Workspace} {r : Except Failure Outcome} {w₁ w₂ : World}
    {resolving : List Cue}
    (hresolved : (resolveName config name workspace.metadata.accessToken .background).carried w₁
      resolving = some (.ended r, w₂)) (jobId : String) (b₁ b₂ b₃ : World) :
    ∃ w₃, (finishLookup config jobId organizationId workspace name).carried w₁
        (resolving ++ Cue.turns [b₁, b₂, b₃]) = some (.ended (.ok ()), w₃) ∧
      Deferred.Recording config jobId (classified workspace r).job b₃ w₃ := by
  have hhanded := carried_handedOn_resolveIn organizationId hresolved b₁ b₂ b₃
  obtain ⟨v, hturn, hkept⟩ := turn_jobEnd jobId workspace (identified_resolution hresolved) b₃
  have houtcome : (lookupOutcome config jobId organizationId workspace name).carried w₁
      (resolving ++ Cue.turns [b₁, b₂, b₃]) =
        some (.ended (.ok (classified workspace r).job), v) := by
    have hattempted := carried_bind (carried_attempt hhanded) (jobEnd jobId workspace) []
    rw [List.append_nil] at hattempted
    calc (lookupOutcome config jobId organizationId workspace name).carried w₁
          (resolving ++ Cue.turns [b₁, b₂, b₃])
        = (jobEnd jobId workspace (resolved workspace r)).carried b₃ [] := hattempted
      _ = some (.ended (.ok (classified workspace r).job), v) := by
          rw [Program.carried, hturn]
          rfl
  obtain ⟨w₃, hnoted, hrecording⟩ : ∃ w₃, ((completeJob config jobId
        (classified workspace r).job).bind fun _ => .done ()).turn v = (.ended (.ok ()), w₃) ∧
      Deferred.Recording config jobId (classified workspace r).job v w₃ :=
    ⟨_, rfl, ⟨rfl, rfl, rfl, rfl, rfl, rfl⟩⟩
  refine ⟨w₃, ?_, hrecording.of_keptIn hkept⟩
  have hfinished := carried_bind houtcome (fun outcome =>
    (completeJob config jobId outcome).bind fun _ => .done ()) []
  rw [List.append_nil] at hfinished
  calc (finishLookup config jobId organizationId workspace name).carried w₁
        (resolving ++ Cue.turns [b₁, b₂, b₃])
      = ((completeJob config jobId (classified workspace r).job).bind fun _ => .done ()).carried v
          [] := hfinished
    _ = some (.ended (.ok ()), w₃) := by
        rw [Program.carried, hnoted]
        rfl

/-- A caller and a job are told alike of a name.  Take any workspace and any end of a resolution,
and look at the table.  Whatever a caller's resolution is given until it ends so, however long that
takes, his look-up ends three turns later, and he is told what the table says; if it says that the
look-up goes on in the background, a pending job is made for it and the work is left.  Whatever a
resolution in the background is given until it ends so, the look-up ends well three turns later,
and its job, if it is still remembered, is settled with the outcome of the table. -/
theorem classified_alike (config : Config) (organizationId name : String)
    (workspace : Integration.Workspace) (r : Except Failure Outcome) :
    (∀ (integrationId : String) (w₀ w₁ w₂ b₁ b₂ b₃ : World) (finding resolving : List Cue),
      (Integration.findActive? config organizationId integrationId).carried w₀ finding =
        some (.ended (.ok (some workspace)), w₁) →
      (resolveName config name workspace.metadata.accessToken .interactive).carried w₁
        resolving = some (.ended r, w₂) →
      ∃ result w₃, ((Demand.lookup organizationId integrationId name).program config).carried w₀
          (finding ++ (resolving ++ Cue.turns [b₁, b₂, b₃])) = some (.ended result, w₃) ∧
        (classified workspace r).caller.Holds config organizationId workspace name result b₃ w₃) ∧
    ∀ (jobId : String) (w₁ w₂ b₁ b₂ b₃ : World) (resolving : List Cue),
      (resolveName config name workspace.metadata.accessToken .background).carried w₁
        resolving = some (.ended r, w₂) →
      ∃ w₃, (finishLookup config jobId organizationId workspace name).carried w₁
          (resolving ++ Cue.turns [b₁, b₂, b₃]) = some (.ended (.ok ()), w₃) ∧
        Deferred.Recording config jobId (classified workspace r).job b₃ w₃ ∧
        ∀ job, (b₃.memory.jobs.read b₃.clock jobId).1 = some job →
          (w₃.memory.jobs.entry? jobId).map (·.value) =
            some ⟨jobId, job.name, .settled (classified workspace r).job⟩ := by
  constructor
  · intro integrationId w₀ w₁ w₂ b₁ b₂ b₃ finding resolving hfound hresolved
    exact carried_lookup hfound hresolved b₁ b₂ b₃
  · intro jobId w₁ w₂ b₁ b₂ b₃ resolving hresolved
    obtain ⟨w₃, hends, hrecording⟩ := carried_finishLookup organizationId hresolved jobId
      b₁ b₂ b₃
    refine ⟨w₃, hends, hrecording, ?_⟩
    intro job hjob
    exact settled_of_recording hrecording hjob

/-- A workspace with an address. -/
def acme : Integration.Workspace :=
  ⟨.text "i1", .text "T1", .text "Acme", .visible,
    ⟨"t", none, none, some "acme", [("access_token", .text "t"), ("domain_name", .text "acme")]⟩⟩

/-- The cue with the row of that workspace. -/
def acmeStored : Cue :=
  ⟨.rows (.ok [.ofFields [("id", .text "i1"), ("external_id", .text "T1"), ("name", .text "Acme"),
    ("status", .text "visible"), ("metadata", .ofFields acme.metadata.fields)]]), .blank 0⟩

/-- A user in a list who goes by the name of Ann. -/
def ann (id : String) : Value :=
  .ofFields [("id", .text id), ("name", .text id),
    ("profile", .ofFields [("display_name", .text "ann")])]

/-- No channels, and then two users who both go by the name of Ann. -/
def twoAnns : List Cue :=
  ⟨.reply (lastPage []), .blank 0⟩ :: Cue.turns [.blank 1, .blank 1, .blank 1] ++
    ⟨.reply (.answered (.ofFields [("ok", .bool true),
      ("members", .ofList [ann "U1", ann "U2"])])), .blank 2⟩ ::
    Cue.turns [.blank 3, .blank 3, .blank 3]

/-- Whether a search failed since two users have a name, without the address of the workspace. -/
def isDuplicate (name : String) : Stand Outcome → Bool
  | .ended (.error (.duplicateName other domain)) => other == name && domain.isNone
  | _ => false

theorem eq_of_isDuplicate {name : String} {st : Stand Outcome} (h : isDuplicate name st = true) :
    st = .ended (.error (.duplicateName name none)) := by
  unfold isDuplicate at h
  split at h
  · next other domain =>
      obtain ⟨hname, hdomain⟩ := Bool.and_eq_true_iff.mp h
      rw [beq_iff_eq] at hname
      rw [Option.isNone_iff_eq_none] at hdomain
      rw [hname, hdomain]
  · cases h

theorem resolveName_twoAnns (p : Patience) :
    ∃ w, (resolveName hurried "@ann" "t" p).carried (.blank 0) twoAnns =
      some (.ended (.error (.duplicateName "ann" none)), w) := by
  have hends : ((resolveName hurried "@ann" "t" p).carried (.blank 0) twoAnns).any
      (isDuplicate "ann" ·.1) = true := by
    cases p with
    | interactive => decide +kernel
    | background => decide +kernel
  obtain ⟨⟨st, w⟩, hcarried, hduplicate⟩ := (Option.any_eq_true _ _).mp hends
  have hst : st = .ended (.error (.duplicateName "ann" none)) := eq_of_isDuplicate hduplicate
  subst hst
  exact ⟨w, hcarried⟩

/-- The caller is told of two users, with the address of the workspace, and so is the job. -/
theorem classified_alike_twoAnns :
    let jobs := Jobs.create .empty 4 hurried.jobTtl "a" "@ann"
    let later : World := { World.blank 4 with memory := { Memory.empty with jobs } }
    let handed := Cue.turns [.blank 3, .blank 3, later]
    (∃ w, ((Demand.lookup "o1" "i1" "@ann").program hurried).carried (.blank 0)
        ([acmeStored] ++ (twoAnns ++ handed)) =
      some (.ended (.error (.duplicateName "ann" (some "acme"))), w)) ∧
    ∃ w, (finishLookup hurried "a" "o1" acme "@ann").carried (.blank 0) (twoAnns ++ handed) =
        some (.ended (.ok ()), w) ∧
      (w.memory.jobs.entry? "a").map (·.value) =
        some ⟨"a", "@ann", .settled (.failed "duplicate_display_name"
          (some ("Multiple users were found with display name 'ann'. Please use your username, " ++
            "found at acme.slack.com/account#account.")))⟩ := by
  intro jobs later handed
  obtain ⟨hcaller, hjob⟩ := classified_alike hurried "o1" "@ann" acme
    (.error (.duplicateName "ann" none))
  obtain ⟨w₂, hwaiting⟩ := resolveName_twoAnns .interactive
  obtain ⟨w₂', hbackground⟩ := resolveName_twoAnns .background
  constructor
  · obtain ⟨result, w₃, hends, rfl, _⟩ := hcaller "i1" (.blank 0) (.blank 0) w₂ (.blank 3)
      (.blank 3) later [acmeStored] twoAnns rfl hwaiting
    exact ⟨w₃, hends⟩
  · obtain ⟨w₃, hends, _, hsettled⟩ := hjob "a" (.blank 0) w₂' (.blank 3) (.blank 3) later
      twoAnns hbackground
    have hremembered : (later.memory.jobs.read later.clock "a").1 =
        some ⟨"a", "@ann", .pending⟩ := by decide +kernel
    exact ⟨w₃, hends, hsettled _ hremembered⟩

end AlertRelay.Channel
