import AlertRelay.Background
import AlertRelay.Proofs.Database.Queries
import AlertRelay.Proofs.Program.Asked
import AlertRelay.Proofs.Slack.Containment

/-!
How alerts about incidents go.

An alert asks the database once, for the workspace that it goes to.  `Goes` lists what can come of
it: nothing is posted if the database fails or knows of no workspace, and else there is one call to
Slack, whose reply decides on the outcome.  Main statement: every alert goes one of these ways,
whatever answers it, and in the background its failure is logged once (`alert_goes`).
-/

namespace AlertRelay

namespace Database

open Program

variable {σ : Type} (o : Surroundings σ)

theorem yields_openPool (config : Config) : Yields o (openPool config) fun _ => True := by
  refine (yields_update _).bind fun wasOpen _ => ?_
  cases wasOpen with
  | true => exact yields_done trivial
  | false => exact yields_perform fun _ => trivial

theorem execute_received {α : Type} (r : Except Value α) (s : σ) :
    (received r).execute o s = ⟨r.mapError .foreign, s, []⟩ := by
  cases r <;> rfl

theorem execute_asking (q : Query) (s : σ) :
    ((perform (.query q)).bind fun answer => received answer).execute o s =
      ⟨(o.answer s (.query q)).1.mapError .foreign, (o.answer s (.query q)).2,
        [⟨.query q, (o.answer s (.query q)).1⟩]⟩ := by
  have hreceived := execute_received o (o.answer s (.query q)).1 (o.answer s (.query q)).2
  change Execution.mk ((received (o.answer s (.query q)).1).execute o _).result
    ((received (o.answer s (.query q)).1).execute o _).state
      (_ :: ((received (o.answer s (.query q)).1).execute o _).asked) = _
  rw [hreceived]

/-- A query that was asked is all that is heard of it, and its answer is the result. -/
theorem execute_query (config : Config) (q : Query) (s : σ) :
    ∃ answer s' before, (∀ a ∈ before, a.IsSilent) ∧ (query config q).execute o s =
      ⟨answer.mapError .foreign, s', before ++ [⟨.query q, answer⟩]⟩ := by
  have hsilent : (openPool config).Within silence :=
    within_openPool (fun _ _ => ⟨rfl, rfl, rfl⟩) trivial config
  obtain ⟨_, hopened, _⟩ := yields_openPool o config s
  let answered := o.answer ((openPool config).execute o s).state (.query q)
  refine ⟨answered.1, answered.2, _, fun a ha => hsilent.of_mem_asked o s ha a.answer, ?_⟩
  change ((openPool config).bind fun _ =>
    (perform (.query q)).bind fun answer => received answer).execute o s = _
  rw [execute_bind, Execution.andThen_ok hopened, execute_asking]

end Database

namespace Integration

open Program Database

variable {σ : Type} (o : Surroundings σ)

/-- The record of a row that holds no valid workspace. -/
def invalidRowMessage : String := "slack.integration.invalid_row"

/-- The workspace of a row is found without a question; only an invalid row is logged. -/
theorem execute_workspaceOf (row : Option Row) (s : σ) :
    ∃ s' asked, (workspaceOf row).execute o s = ⟨.ok (row.bind Workspace.ofRow?), s', asked⟩ ∧
      OnlyRecords invalidRowMessage asked := by
  have hnothing : OnlyRecords invalidRowMessage [] :=
    onlyRecords_of_silent fun _ ha => absurd ha List.not_mem_nil
  cases row with
  | none => exact ⟨s, [], rfl, hnothing⟩
  | some row =>
      cases hrow : Workspace.ofRow? row with
      | some w =>
          refine ⟨s, [], ?_, hnothing⟩
          simp only [workspaceOf, Option.bind_some, hrow]
          rfl
      | none =>
          have hlogged : workspaceOf (some row) =
              (log .warn invalidRowMessage [("integrationId", row.get "id"),
                ("status", row.get "status")]).bind fun _ => .done none := by
            simp only [workspaceOf, hrow]
            rfl
          rw [hlogged, Option.bind_some, hrow]
          exact ⟨_, _, rfl, onlyRecords_log .warn _ _⟩

/-- The workspace in the rows that a query gave: the one in the first row, if that is valid. -/
def workspaceIn (rows : List Row) : Option Workspace :=
  (rows.head?.filter Value.isTruthy).bind Workspace.ofRow?

/-- A workspace is looked for with one query, and at most an invalid row is logged. -/
theorem execute_findActive? (config : Config) (organizationId integrationId : String) (s : σ) :
    ∃ answer s' asked,
      (findActive? config organizationId integrationId).execute o s =
        ⟨(answer.mapError Failure.foreign).map workspaceIn, s', asked⟩ ∧
      queries asked = [(activeQuery organizationId integrationId, answer)] ∧ posts asked = [] ∧
      ∀ message, message ≠ invalidRowMessage → recordsOf message asked = [] := by
  obtain ⟨answer, s', before, hsilent, hquery⟩ :=
    execute_query o config (activeQuery organizationId integrationId) s
  have hbefore : OnlyRecords invalidRowMessage before := onlyRecords_of_silent hsilent
  have hprogram : findActive? config organizationId integrationId =
      (query config (activeQuery organizationId integrationId)).bind fun rows =>
        workspaceOf (rows.head?.filter Value.isTruthy) := by
    change ((query config _).bind fun rows => .done (rows.head?.filter Value.isTruthy)).bind
      workspaceOf = _
    rw [bind_assoc]
    rfl
  have hasked {later : List Asked} (hlater : OnlyRecords invalidRowMessage later) :
      let asked := before ++ [⟨.query (activeQuery organizationId integrationId), answer⟩] ++ later
      queries asked = [(activeQuery organizationId integrationId, answer)] ∧ posts asked = [] ∧
        ∀ message, message ≠ invalidRowMessage → recordsOf message asked = [] := by
    intro asked
    refine ⟨?_, ?_, ?_⟩
    · rw [queries_append, queries_append, hbefore.queries_eq, hlater.queries_eq]
      rfl
    · rw [posts_append, posts_append, hbefore.posts_eq, hlater.posts_eq]
      rfl
    · intro message hmessage
      rw [recordsOf_append, recordsOf_append, hbefore.recordsOf_eq message hmessage,
        hlater.recordsOf_eq message hmessage]
      rfl
  rw [hprogram, execute_bind, hquery]
  cases answer with
  | error thrown =>
      have hnothing : OnlyRecords invalidRowMessage [] :=
        onlyRecords_of_silent fun _ ha => absurd ha List.not_mem_nil
      have hall := hasked hnothing
      rw [List.append_nil] at hall
      exact ⟨.error thrown, s', _, rfl, hall⟩
  | ok rows =>
      obtain ⟨s'', later, hworkspace, hlater⟩ :=
        execute_workspaceOf o (rows.head?.filter Value.isTruthy) s'
      rw [Execution.andThen_ok rfl, hworkspace]
      exact ⟨.ok rows, s'', _, rfl, hasked hlater⟩

end Integration

namespace Alert

open Program

variable (config : Config) (action : Attachment.AlertAction) (incident : Attachment.Incident)
  (metricValue : Option Double)

/-- The call that posts an alert in a workspace. -/
def alertCall (workspace : Integration.Workspace) : SlackCall :=
  postCall config workspace action.channel
    (Attachment.incidentAttachment ⟨config.appBaseUrl⟩ action incident metricValue)

/-- Whether Slack took what was posted. -/
def Accepted : SlackReply → Prop
  | .answered answer => (answer.get "ok").isTruthy = true
  | _ => False

/-- What is logged of an alert that Slack did not take. -/
def refusal (f : Failure) : LogRecord :=
  (.info, "rule.fail.slack_post",
    [.ofFields [("error", f.toValue.get "message"), ("code", f.toValue.get "code"),
      ("incidentId", .text incident.id)]])

/-- What is logged of an alert that failed in the background. -/
def breakdown (f : Failure) : LogRecord :=
  (.error, "rule.fail.slack_dispatch",
    [.ofFields [("error", f.toValue), ("incidentId", .text incident.id)]])

/-- The ways in which an alert can go: what the database answers, what is posted, with what came of
it, what is logged of it, and how the alert ends. -/
inductive Goes : Except Value (List Database.Row) → List (SlackCall × SlackReply) →
    List LogRecord → Except Failure Delivery → Prop
  /-- The database fails. -/
  | unanswered (thrown : Value) : Goes (.error thrown) [] [] (.error (.foreign thrown))
  /-- There is no valid workspace. -/
  | missing {rows : List Database.Row} (hrows : Integration.workspaceIn rows = none) :
      Goes (.ok rows) [] [] (.ok .noIntegration)
  /-- Slack takes the alert. -/
  | sent {rows : List Database.Row} {workspace : Integration.Workspace} {reply : SlackReply}
      (hrows : Integration.workspaceIn rows = some workspace) (haccepted : Accepted reply) :
      Goes (.ok rows) [(alertCall config action incident metricValue workspace, reply)] []
        (.ok .sent)
  /-- Slack does not take it, for a reason that can be told. -/
  | refused {rows : List Database.Row} {workspace : Integration.Workspace} {reply : SlackReply}
      {f : Failure} (hrows : Integration.workspaceIn rows = some workspace)
      (haccepted : ¬ Accepted reply) (htold : Slack.Explicable reply)
      (hfailure : Slack.resultOf "chat.postMessage" reply = .error f) :
      Goes (.ok rows) [(alertCall config action incident metricValue workspace, reply)]
        [refusal incident f] (.ok .failed)
  /-- The client cannot be made, or there is no text for the reason. -/
  | broken {rows : List Database.Row} {workspace : Integration.Workspace} {reply : SlackReply}
      {f : Failure} (hrows : Integration.workspaceIn rows = some workspace)
      (htold : ¬ Slack.Explicable reply)
      (hfailure : Slack.resultOf "chat.postMessage" reply = .error f) :
      Goes (.ok rows) [(alertCall config action incident metricValue workspace, reply)] []
        (.error f)

/-- What is done with the result of the call for an alert. -/
def afterPost : Except Failure Value → Program Delivery
  | .ok _ => .done .sent
  | .error f =>
    if f.isApiError then
      (log .info "rule.fail.slack_post"
        [("error", f.toValue.get "message"), ("code", f.toValue.get "code"),
          ("incidentId", .text incident.id)]).bind fun _ => .done .failed
    else .fail f

/-- The part of an alert that follows when its workspace was looked for. -/
def afterFind : Option Integration.Workspace → Program Delivery
  | none => .done .noIntegration
  | some workspace =>
    (attempt (Slack.call (alertCall config action incident metricValue workspace))).bind
      (afterPost incident)

theorem send_eq : send config action incident metricValue =
    (Integration.findActive? config incident.organizationId action.integrationId).bind
      (afterFind config action incident metricValue) :=
  rfl

variable {σ : Type} (o : Surroundings σ)

theorem execute_call (c : SlackCall) (s : σ) :
    ∃ reply s', (Slack.call c).execute o s = ⟨Slack.resultOf c.method reply, s',
      [⟨.slack c, reply⟩] ++ List.replicate Slack.callStages ⟨.giveWay, ()⟩⟩ := by
  let reply := (o.answer s (.slack c)).1
  have hresult := Slack.result_call o s c
  have hasked : ((Slack.call c).execute o s).asked =
      [⟨.slack c, reply⟩] ++ List.replicate Slack.callStages ⟨.giveWay, ()⟩ := by
    rw [Slack.call, asked_handedOn]
    congr 1
    change _ :: ((ofExcept (Slack.resultOf c.method reply)).execute o _).asked = _
    cases Slack.resultOf c.method reply <;> rfl
  refine ⟨reply, ((Slack.call c).execute o s).state, ?_⟩
  rw [← hresult, ← hasked]

/-- A call has a result exactly if Slack took what was posted. -/
theorem accepted_iff (method : String) (reply : SlackReply) :
    Accepted reply ↔ ∃ answer, Slack.resultOf method reply = .ok answer := by
  have hnever {f : Failure} :
      ¬ ∃ answer, (Except.error f : Except Failure Value) = .ok answer := by
    rintro ⟨answer, h⟩
    cases h
  cases reply with
  | noClient thrown => exact iff_of_false id hnever
  | threw thrown => exact iff_of_false id hnever
  | answered answer =>
      simp only [Accepted, Slack.resultOf]
      by_cases habsent : answer.isAbsent = true
      · rw [if_pos habsent]
        -- There are no fields in an answer that is nothing at all.
        have hfalse : ¬ (answer.get "ok").isTruthy = true := by
          cases answer with
          | undefined => exact Bool.false_ne_true
          | null => exact Bool.false_ne_true
          | _ => cases habsent
        exact iff_of_false hfalse hnever
      · rw [if_neg habsent]
        by_cases hok : (answer.get "ok").isTruthy = true
        · rw [if_pos hok]
          exact iff_of_true hok ⟨answer, rfl⟩
        · rw [if_neg hok]
          exact iff_of_false hok hnever

/-- What is asked for when the workspace was found: the call, some turns, and records. -/
theorem asked_of_call {c : SlackCall} {reply : SlackReply} (records : List Asked)
    (hqueries : queries records = []) (hposts : posts records = []) :
    let asked := [⟨.slack c, reply⟩] ++ List.replicate Slack.callStages ⟨.giveWay, ()⟩ ++ records
    queries asked = [] ∧ posts asked = [(c, reply)] ∧
      ∀ message, recordsOf message asked = recordsOf message records := by
  intro asked
  have hturns : ∀ a ∈ List.replicate Slack.callStages (⟨.giveWay, ()⟩ : Asked), a.IsSilent :=
    fun a ha => Asked.silent_of_mem_turns ha
  have hnothing : OnlyRecords "" (List.replicate Slack.callStages ⟨.giveWay, ()⟩) :=
    onlyRecords_of_silent hturns
  refine ⟨?_, ?_, fun message => ?_⟩
  · rw [queries_append, queries_append, hnothing.queries_eq, hqueries]
    rfl
  · rw [posts_append, posts_append, hnothing.posts_eq, hposts]
    rfl
  · rw [recordsOf_append, recordsOf_append, recordsOf_of_silent hturns]
    rfl

theorem execute_afterPost_of_isApiError {f : Failure} (h : f.isApiError = true) (s : σ) :
    ∃ s', (afterPost incident (.error f)).execute o s =
      ⟨.ok .failed, s', [⟨.log .info "rule.fail.slack_post" (refusal incident f).2.2, ()⟩]⟩ := by
  simp only [afterPost, if_pos h]
  exact ⟨_, rfl⟩

theorem execute_afterPost_of_not_isApiError {f : Failure} (h : ¬ f.isApiError = true) (s : σ) :
    (afterPost incident (.error f)).execute o s = ⟨.error f, s, []⟩ := by
  simp only [afterPost, if_neg h]
  rfl

/-- Where the workspace is found, the alert goes as the reply to its call decides. -/
theorem execute_afterFind {rows : List Database.Row} {workspace : Integration.Workspace}
    (hrows : Integration.workspaceIn rows = some workspace) (s : σ) :
    ∃ r s' asked,
      (afterFind config action incident metricValue (some workspace)).execute o s = ⟨r, s', asked⟩ ∧
      queries asked = [] ∧ recordsOf "rule.fail.slack_dispatch" asked = [] ∧
      Goes config action incident metricValue (.ok rows) (posts asked)
        (recordsOf "rule.fail.slack_post" asked) r := by
  obtain ⟨reply, s', hcall⟩ :=
    execute_call o (alertCall config action incident metricValue workspace) s
  have hafter {result : Except Failure Value} {r : Except Failure Delivery} {s'' : σ}
      {records : List Asked} (hresult : Slack.resultOf "chat.postMessage" reply = result)
      (hlast : (afterPost incident result).execute o s' = ⟨r, s'', records⟩) :
      (afterFind config action incident metricValue (some workspace)).execute o s =
        ⟨r, s'', [⟨.slack (alertCall config action incident metricValue workspace), reply⟩] ++
          List.replicate Slack.callStages ⟨.giveWay, ()⟩ ++ records⟩ := by
    change _ = Execution.mk (Slack.resultOf "chat.postMessage" reply) _ _ at hcall
    rw [hresult] at hcall
    rw [afterFind, execute_bind, execute_attempt, hcall, Execution.andThen_ok rfl]
    simp only [hlast]
  have htold := Slack.contained_resultOf_iff "chat.postMessage" reply
  have haccepted := accepted_iff "chat.postMessage" reply
  cases hresult : Slack.resultOf "chat.postMessage" reply with
  | ok answer =>
      obtain ⟨hqueries, hposts, hrecords⟩ := asked_of_call [] rfl rfl
      refine ⟨_, _, _, hafter hresult rfl, hqueries, hrecords _, ?_⟩
      rw [hposts, hrecords]
      exact .sent hrows (haccepted.mpr ⟨answer, hresult⟩)
  | error f =>
      have hnot : ¬ Accepted reply := by
        intro h
        obtain ⟨answer, hok⟩ := haccepted.mp h
        cases hresult.symm.trans hok
      rw [hresult] at htold
      by_cases hapi : f.isApiError = true
      · obtain ⟨s'', hlogged⟩ := execute_afterPost_of_isApiError incident o hapi s'
        obtain ⟨hqueries, hposts, hrecords⟩ := asked_of_call
          [⟨.log .info "rule.fail.slack_post" (refusal incident f).2.2, ()⟩] rfl rfl
        refine ⟨_, _, _, hafter hresult hlogged, hqueries, hrecords _, ?_⟩
        rw [hposts, hrecords]
        exact .refused hrows hnot (htold.mp hapi) hresult
      · have hbroken := execute_afterPost_of_not_isApiError incident o hapi s'
        obtain ⟨hqueries, hposts, hrecords⟩ := asked_of_call [] rfl rfl
        refine ⟨_, _, _, hafter hresult hbroken, hqueries, hrecords _, ?_⟩
        rw [hposts, hrecords]
        exact .broken hrows (mt htold.mpr hapi) hresult

/-- An alert asks for its workspace once, and goes one of the ways in which alerts can go. -/
theorem execute_send (s : σ) :
    let sent := (send config action incident metricValue).execute o s
    recordsOf "rule.fail.slack_dispatch" sent.asked = [] ∧
      ∃ answer, queries sent.asked =
          [(Integration.activeQuery incident.organizationId action.integrationId, answer)] ∧
        Goes config action incident metricValue answer (posts sent.asked)
          (recordsOf "rule.fail.slack_post" sent.asked) sent.result := by
  intro sent
  obtain ⟨answer, s', found, hfound, hqueries, hposts, hrecords⟩ :=
    Integration.execute_findActive? o config incident.organizationId action.integrationId s
  have hsent : sent = (Execution.mk ((answer.mapError Failure.foreign).map Integration.workspaceIn)
      s' found).andThen fun workspace s =>
        (afterFind config action incident metricValue workspace).execute o s := by
    change (send config action incident metricValue).execute o s = _
    rw [send_eq, execute_bind, hfound]
  have hpost : recordsOf "rule.fail.slack_post" found = [] := hrecords _ (by decide)
  have hdispatch : recordsOf "rule.fail.slack_dispatch" found = [] := hrecords _ (by decide)
  cases answer with
  | error thrown =>
      rw [hsent]
      refine ⟨hdispatch, _, hqueries, ?_⟩
      change Goes _ _ _ _ _ (posts found) (recordsOf _ found) _
      rw [hposts, hpost]
      exact .unanswered thrown
  | ok rows =>
      rw [Execution.andThen_ok rfl] at hsent
      cases hrows : Integration.workspaceIn rows with
      | none =>
          rw [hrows] at hsent
          change sent = ⟨.ok .noIntegration, s', found ++ []⟩ at hsent
          rw [List.append_nil] at hsent
          rw [hsent]
          refine ⟨hdispatch, _, hqueries, ?_⟩
          change Goes _ _ _ _ _ (posts found) (recordsOf _ found) _
          rw [hposts, hpost]
          exact .missing hrows
      | some workspace =>
          obtain ⟨r, s'', asked, hafter, hnone, hnothing, hgoes⟩ :=
            execute_afterFind config action incident metricValue o hrows s'
          rw [hrows, hafter] at hsent
          rw [hsent]
          refine ⟨?_, .ok rows, ?_, ?_⟩
          · rw [recordsOf_append, hdispatch, hnothing]
            rfl
          · rw [queries_append, hqueries, hnone]
            rfl
          · rw [posts_append, recordsOf_append, hposts, hpost]
            exact hgoes

/-- What is logged of an alert that was sent in the background. -/
def breakdowns : Except Failure Delivery → List LogRecord
  | .ok _ => []
  | .error f => [breakdown incident f]

/-- What is done with the result of an alert in the background. -/
def afterSend : Except Failure Delivery → Program Unit
  | .ok _ => .done ()
  | .error f => perform (.log .error "rule.fail.slack_dispatch" (breakdown incident f).2.2)

theorem execute_afterSend (r : Except Failure Delivery) (s : σ) :
    ∃ s' records, (afterSend incident r).execute o s = ⟨.ok (), s', records⟩ ∧
      posts records = [] ∧
      recordsOf "rule.fail.slack_dispatch" records = breakdowns incident r := by
  cases r with
  | ok delivery => exact ⟨s, [], rfl, rfl, rfl⟩
  | error f => exact ⟨_, _, rfl, rfl, rfl⟩

/-- In the background an alert is sent, and ends well. -/
theorem execute_deliver (s : σ) :
    let sent := (send config action incident metricValue).execute o s
    ∃ s' records, (deliver config action incident metricValue).execute o s =
        ⟨.ok (), s', sent.asked ++ [⟨.giveWay, ()⟩] ++ records⟩ ∧
      posts records = [] ∧
      recordsOf "rule.fail.slack_dispatch" records = breakdowns incident sent.result := by
  intro sent
  let handed := handedOn 1 (send config action incident metricValue)
  have hresult : (handed.execute o s).result = sent.result := result_handedOn o 1 _ s
  have hasked : (handed.execute o s).asked = sent.asked ++ [⟨.giveWay, ()⟩] :=
    asked_handedOn o 1 _ s
  have hdeliver : deliver config action incident metricValue =
      handed.attempt.bind (afterSend incident) := rfl
  obtain ⟨s', records, hlast, hposts, hrecords⟩ :=
    execute_afterSend incident o sent.result (handed.execute o s).state
  refine ⟨s', records, ?_, hposts, hrecords⟩
  rw [hdeliver, execute_bind, execute_attempt, Execution.andThen_ok rfl, hresult]
  simp only [hlast, hasked]

/-- How an alert goes that is sent for a caller, and how one that is left to the background. -/
structure Course (s : σ) : Prop where
  /-- The workspace is asked for once, and the alert goes one of its ways. -/
  sent : let sent := (send config action incident metricValue).execute o s
    ∃ answer, queries sent.asked =
        [(Integration.activeQuery incident.organizationId action.integrationId, answer)] ∧
      Goes config action incident metricValue answer (posts sent.asked)
        (recordsOf "rule.fail.slack_post" sent.asked) sent.result
  /-- Nothing is done at once for one that is left to the background, and nothing fails. -/
  dispatched : let dispatched := (dispatch action incident metricValue).execute o s
    dispatched.result = .ok () ∧
      dispatched.asked = [⟨.spawn (.alert action incident metricValue), ()⟩]
  /-- In the background the same is posted, nothing fails, and the failure to send the alert is
  logged once, if there is one. -/
  delivered : let sent := (send config action incident metricValue).execute o s
    let delivered :=
      ((Background.alert action incident metricValue).program config).execute o s
    delivered.result = .ok () ∧ posts delivered.asked = posts sent.asked ∧
      recordsOf "rule.fail.slack_dispatch" delivered.asked = breakdowns incident sent.result

/-- Whatever answers an alert, it goes one of the ways in which alerts can go: nothing is posted if
the database fails or knows of no workspace, and else there is one call, with the outcome that its
reply decides on; in the background a failure is logged once. -/
theorem alert_goes (s : σ) : Course config action incident metricValue o s := by
  obtain ⟨hsilent, hsent⟩ := execute_send config action incident metricValue o s
  refine ⟨hsent, ⟨rfl, rfl⟩, ?_⟩
  intro sent delivered
  obtain ⟨s', records, hdelivered, hposts, hrecords⟩ :=
    execute_deliver config action incident metricValue o s
  change delivered = _ at hdelivered
  rw [hdelivered]
  refine ⟨rfl, ?_, ?_⟩
  · rw [posts_append, posts_append, hposts, List.append_nil]
    exact List.append_nil _
  · rw [recordsOf_append, recordsOf_append, hsilent, hrecords]
    rfl

/-- Surroundings with a workspace in the database, in which the same comes of every call. -/
def connected (reply : SlackReply) : Surroundings Unit where
  answer
    | _, .query _ =>
      (.ok [.ofFields [("id", .text "i1"), ("external_id", .text "T1"), ("name", .text "Acme"),
        ("status", .text "visible"), ("metadata", .ofFields [("access_token", .text "t")])]], ())
    | _, e => (Slack.repeating reply).answer () e
  access := (Slack.repeating reply).access

/-- An error without a message, and with no way to make a text of it. -/
def muteError : Value :=
  .error none .error [("message", .text ""), ("toString", .text "x")]

/-- An incident of a rule, and what is to be done about it. -/
def outage : Attachment.Incident :=
  ⟨"1", 1, "o1", "acme", false, 0, "r1", "Errors", "events", 5, none⟩
def tellOutage : Attachment.AlertAction := ⟨"i1", "C1", true⟩

/-- A call that throws such an error fails the alert, though its workspace was found and the client
could be made. -/
theorem muteError_escapes :
    let sent := (send ⟨"", "", 0, 0, 0, 0, []⟩ tellOutage outage none).execute
      (connected (.threw muteError)) ()
    (∃ call, posts sent.asked = [(call, .threw muteError)]) ∧
      sent.result = .error (.foreign Value.noTextError) ∧
      recordsOf "rule.fail.slack_post" sent.asked = [] :=
  ⟨⟨_, rfl⟩, rfl, rfl⟩

end Alert

end AlertRelay
