import AlertRelay.Alert.Delivery
import AlertRelay.Channel.Listing
import AlertRelay.Proofs.Program.Execution
import AlertRelay.Proofs.Search.Ending
import AlertRelay.Proofs.Value.Display

/-!
What can come out of a call to Slack.

A call hands on an answer that is ok, or an `ApiError`; that is what `Contained` says of a result.
It is so exactly if what came of the call is `Explicable`: the client could be made, and whatever
stands in the place of a message has a text.  Searches and alerts then meet no failure of a call
but an `ApiError`, which they take as an answer.  Main statement: `containment`.
-/

namespace AlertRelay

namespace Slack

open Program

/-- A value of which an error of a call can be made, unless it is one. -/
def HasMessage (thrown : Value) : Prop :=
  isApiError thrown = true ∨ thrown.messageSource.textFailure? [] = none

/-- What came of a call can be told by an error of a call, if it is not an answer that is ok. -/
def Explicable : SlackReply → Prop
  | .noClient thrown => isApiError thrown = true
  | .threw thrown => HasMessage thrown
  | .answered answer => answer.isAbsent = false ∧
      ((answer.get "ok").isTruthy = true ∨ (answer.get "error").textFailure? [] = none)

/-- An answer that is ok, or an error of a call. -/
def Contained : Except Failure Value → Prop
  | .ok answer => (answer.get "ok").isTruthy = true
  | .error f => f.isApiError = true

/-- The reason why something has no text is no error of a call. -/
theorem isApiError_textFailure? {v e : Value} (h : v.textFailure? [] = some e) :
    isApiError e = false := by
  rcases Value.textFailure?_cases h with rfl | rfl <;> rfl

theorem isApiError_failureOf_iff (method : String) (thrown : Value) :
    (failureOf method thrown).isApiError = true ↔ HasMessage thrown := by
  unfold failureOf HasMessage
  by_cases hapi : isApiError thrown = true
  · rw [if_pos hapi]
    exact ⟨.inl, fun _ => hapi⟩
  · rw [if_neg hapi]
    cases htext : thrown.messageSource.textFailure? [] with
    | none => exact ⟨fun _ => .inr rfl, fun _ => rfl⟩
    | some e =>
        refine ⟨fun he => ?_, fun h => ?_⟩
        · cases (isApiError_textFailure? htext).symm.trans he
        · rcases h with h | h
          · exact absurd h hapi
          · cases h

theorem contained_resultOf_iff (method : String) (reply : SlackReply) :
    Contained (resultOf method reply) ↔ Explicable reply := by
  cases reply with
  | noClient thrown => exact Iff.rfl
  | threw thrown => exact isApiError_failureOf_iff method thrown
  | answered answer =>
      simp only [resultOf, Explicable]
      by_cases habsent : answer.isAbsent = true
      · rw [if_pos habsent, habsent]
        refine ⟨fun h => ?_, fun h => ?_⟩
        · cases h
        · cases h.1
      · rw [if_neg habsent, Bool.eq_false_iff.mpr habsent]
        by_cases hok : (answer.get "ok").isTruthy = true
        · rw [if_pos hok]
          exact ⟨fun _ => ⟨rfl, .inl hok⟩, fun _ => hok⟩
        · rw [if_neg hok]
          cases htext : (answer.get "error").textFailure? [] with
          | none => exact ⟨fun _ => ⟨rfl, .inr rfl⟩, fun _ => rfl⟩
          | some e =>
              refine ⟨fun he => ?_, fun h => ?_⟩
              · cases (isApiError_textFailure? htext).symm.trans he
              · rcases h.2 with h | h
                · exact absurd h hok
                · cases h

/-- What a call ends with is made of what came of it, whatever it is carried out in. -/
theorem result_call {σ : Type} (o : Surroundings σ) (s : σ) (c : SlackCall) :
    ((call c).execute o s).result = resultOf c.method (o.answer s (.slack c)).1 := by
  unfold call
  rw [result_handedOn]
  change (((perform (.slack c)).bind fun reply =>
    ofExcept (resultOf c.method reply)).execute o s).result = _
  rw [execute_bind, Execution.andThen_ok rfl]
  change ((ofExcept (resultOf c.method (o.answer s (.slack c)).1)).execute o _).result = _
  cases resultOf c.method (o.answer s (.slack c)).1 <;> rfl

/-- A call whose failure becomes its result, where whatever comes of calls can be told. -/
theorem attempt_call {σ : Type} {o : Surroundings σ}
    (ho : ∀ s c, Explicable (o.answer s (.slack c)).1) (c : SlackCall) (s : σ) :
    ∃ r state asked, (attempt (call c)).execute o s = ⟨.ok r, state, asked⟩ ∧ Contained r := by
  refine ⟨_, _, _, execute_attempt o (call c) s, ?_⟩
  rw [result_call]
  exact (contained_resultOf_iff c.method _).mpr (ho s c)

end Slack

namespace Channel

/-- A page can only not be fetched for an error of a call, if what came of the call can be told
by one. -/
theorem isApiError_of_pageOf {kind : Kind} {reply : SlackReply} (hreply : Slack.Explicable reply)
    {f : Failure} (h : pageOf kind reply = .error f) : f.isApiError = true := by
  have hcontained := (Slack.contained_resultOf_iff kind.method reply).mpr hreply
  unfold pageOf at h
  cases hresult : Slack.resultOf kind.method reply with
  | error f' =>
      rw [hresult] at h hcontained
      cases h
      exact hcontained
  | ok answer =>
      rw [hresult] at h
      cases hpage : Page.ofAnswer kind answer with
      | error e =>
          simp only [hpage] at h
          cases h
          rfl
      | ok page =>
          simp only [hpage] at h
          cases h

/-- The pages that are fetched from Slack with somebody's token. -/
def pageSource {σ : Type} (o : Surroundings σ) (token : String) : Source σ :=
  fun s kind cursor =>
    let (reply, s) := o.answer s (.slack (pageCall kind cursor token (some pageLimit)))
    let (time, s) := o.answer s .now
    (match pageOf kind reply with
      | .ok page => .page page
      | .error f => .failed f, time, s)

/-- A source that fails for nothing but errors of calls. -/
def Source.Contained {σ : Type} (source : Source σ) : Prop :=
  ∀ s kind cursor f, (source s kind cursor).1 = .failed f → f.isApiError = true

theorem contained_pageSource {σ : Type} {o : Surroundings σ} {token : String}
    (ho : ∀ s c, Slack.Explicable (o.answer s (.slack c)).1) :
    (pageSource o token).Contained := by
  intro s kind cursor f h
  simp only [pageSource] at h
  split at h
  · cases h
  · next hpage =>
      cases h
      exact isApiError_of_pageOf (ho _ _) hpage

/-- With such a source, only at the end of a list can a search fail. -/
theorem Search.error_of_receive {s : Search} {f : Fetch}
    (hreply : ∀ why, f.reply = .failed why → why.isApiError = true) {why : Failure}
    (h : (s.receive f.reply f.time).result? = some (.error why)) :
    why = .duplicateName s.query.name none := by
  rcases receive_result h with ⟨why', hfailed, heq⟩ | ⟨_, _, heq⟩ | ⟨_, _, _, _, heq⟩ |
    ⟨p, _, _, hend⟩
  · rw [if_pos (hreply why' hfailed)] at heq
    cases heq
  · cases heq
  · cases heq
  · rcases endOfList_result hend with ⟨_, heq⟩ | ⟨_, _, heq⟩ | heq
    · cases heq
      rw [read_query]
    · cases heq
    · cases heq

namespace Run

variable {σ : Type}

theorem result_of_result? (source : Source σ) (pages : Nat) (state : σ) {n : Next}
    {r : Except Failure Outcome} (h : n.result? = some r) :
    (ofNext source pages state n).result = some r := by
  cases n with
  | more s => cases h
  | _ => cases pages <;> exact h

/-- A search with such a source fails only because several people go by the wanted name. -/
theorem error_of_contained {source : Source σ} (hsource : source.Contained) (pages : Nat)
    (state : σ) (s : Search) {f : Failure}
    (h : (ofNext source pages state (.more s)).result = some (.error f)) :
    f = .duplicateName s.query.name none := by
  induction pages generalizing state s with
  | zero => cases h
  | succ pages ih =>
      rw [result_more] at h
      -- Whether the search goes on is decided by what comes back for the page.
      cases hend : (s.receive (source state s.kind s.cursor).1
          (source state s.kind s.cursor).2.1).result? with
      | some r =>
          rw [result_of_result? _ _ _ hend] at h
          cases h
          exact Search.error_of_receive (f := ⟨s.kind, s.cursor, _, _⟩)
            (hsource state s.kind s.cursor) hend
      | none =>
          cases hnext : s.receive (source state s.kind s.cursor).1
              (source state s.kind s.cursor).2.1 with
          | more s' =>
              rw [hnext] at h
              rw [← Search.receive_more_query (f := ⟨s.kind, s.cursor, _, _⟩) hnext]
              exact ih _ _ h
          | _ =>
              rw [hnext] at hend
              cases hend

end Run

end Channel

namespace Alert

open Program

/-- An alert fails only if its workspace cannot be looked for. -/
theorem send_error {σ : Type} {o : Surroundings σ}
    (ho : ∀ s c, Slack.Explicable (o.answer s (.slack c)).1) (config : Config)
    (action : Attachment.AlertAction) (incident : Attachment.Incident)
    (metricValue : Option Double) (s : σ) {f : Failure}
    (h : ((send config action incident metricValue).execute o s).result = .error f) :
    ((Integration.findActive? config incident.organizationId action.integrationId).execute o
      s).result = .error f := by
  unfold send at h
  change (((Integration.findActive? config incident.organizationId action.integrationId).bind
    _).execute o s).result = _ at h
  rw [execute_bind] at h
  cases hfound : ((Integration.findActive? config incident.organizationId
      action.integrationId).execute o s).result with
  | error f' =>
      simp only [Execution.andThen, hfound] at h
      cases h
      rfl
  | ok found =>
      rw [Execution.andThen_ok hfound] at h
      cases found with
      | none => cases h
      | some workspace =>
          -- However the call ends, the alert takes it as an answer.
          obtain ⟨r, state, asked, hcall, hcontained⟩ := Slack.attempt_call ho
            (postCall config workspace action.channel
              (Attachment.incidentAttachment ⟨config.appBaseUrl⟩ action incident metricValue))
            ((Integration.findActive? config incident.organizationId
              action.integrationId).execute o s).state
          change (((attempt (Slack.call _)).bind _).execute o _).result = _ at h
          rw [execute_bind, hcall, Execution.andThen_ok rfl] at h
          cases r with
          | ok answer => cases h
          | error why =>
              change why.isApiError = true at hcontained
              simp only [hcontained, if_true] at h
              cases h

end Alert

namespace Slack

open Program

/-- How far failures of calls are contained, with whatever answers in some surroundings. -/
structure Containment {σ : Type} (o : Surroundings σ) : Prop where
  /-- A call hands on an answer that is ok or an error of a call, exactly if what came of it can
  be told so. -/
  call_iff : ∀ c s, Contained ((call c).execute o s).result ↔ Explicable (o.answer s (.slack c)).1
  /-- If that is always so, a search fails only because several people go by the wanted name. -/
  resolve_error : (∀ s c, Explicable (o.answer s (.slack c)).1) →
    ∀ token kinds pages s q f,
      (Channel.resolve (Channel.pageSource o token) kinds pages s q).result = some (.error f) →
        f = .duplicateName q.name none
  /-- And an alert fails only if its workspace cannot be looked for. -/
  send_error : (∀ s c, Explicable (o.answer s (.slack c)).1) →
    ∀ config action incident metricValue s f,
      ((Alert.send config action incident metricValue).execute o s).result = .error f →
        ((Integration.findActive? config incident.organizationId action.integrationId).execute o
          s).result = .error f

/-- Nothing but an error of a call comes out of calls that fail, in whatever surroundings, except
where the client could not be made or something in the place of a message has no text. -/
theorem containment {σ : Type} (o : Surroundings σ) : Containment o where
  call_iff := fun c s => by
    rw [result_call]
    exact contained_resultOf_iff c.method _
  resolve_error := fun ho token kinds pages s q f h => by
    cases kinds with
    | nil => cases pages <;> cases h
    | cons kind later =>
        exact Channel.Run.error_of_contained (Channel.contained_pageSource ho) pages s _ h
  send_error := fun ho config action incident metricValue s _ h =>
    Alert.send_error ho config action incident metricValue s h

/-- Surroundings in which the same comes of every call, and of anything else as little as may
be. -/
def repeating (reply : SlackReply) : Surroundings Unit where
  answer _ e :=
    (match e with
      | .now => (0 : Double)
      | .newId => ""
      | .log .. => ()
      | .notice .. => ()
      | .openPool _ => ()
      | .closePool => ()
      | .query _ => .ok []
      | .connect => .ok ()
      | .clientQuery _ => .ok []
      | .release _ => ()
      | .slack _ => reply
      | .search _ => .ok Channel.nowhere
      | .spawn _ => ()
      | .drain => ()
      | .giveWay => (), ())
  access _ _ := (.empty, ())

/-- The error of a client that is made for an address that is none. -/
def invalidUrl : Value := .error none .typeError [("message", .text "Invalid URL")]

/-- A client that cannot be made fails for a reason of its own, which a search passes on. -/
theorem not_contained_invalidUrl :
    ¬ Contained ((call ⟨"xoxb-1", .undefined, "users.list", .ofFields []⟩).execute
        (repeating (.noClient invalidUrl)) ()).result ∧
      (Channel.resolve (Channel.pageSource (repeating (.noClient invalidUrl)) "xoxb-1")
        [.user] 1 () ⟨"alice", 10, "xoxb-1"⟩).result = some (.error (.foreign invalidUrl)) := by
  refine ⟨?_, rfl⟩
  change ¬ (false = true)
  exact Bool.false_ne_true

/-- A client that throws plain texts is contained. -/
theorem containment_offline :
    Contained ((call ⟨"xoxb-1", .undefined, "users.list", .ofFields []⟩).execute
      (repeating (.threw (.text "offline"))) ()).result :=
  ((containment (repeating (.threw (.text "offline")))).call_iff _ ()).mpr (.inr rfl)

end Slack

end AlertRelay
