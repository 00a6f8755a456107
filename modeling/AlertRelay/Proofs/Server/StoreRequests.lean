import AlertRelay.Proofs.Program.Execution
import AlertRelay.Proofs.Request.Updates
import AlertRelay.Proofs.Slack.Containment
import AlertRelay.Server

/-!
Requests to store a preference.

A request that reaches a route is answered with what performing the route gives, or with the answer
to its failure (`execute_respond`); one whose body cannot be read performs nothing.  A preference is
changed just as the body says, and where it says no update nothing is asked for and nothing changes
(`Course`).  What is not a choice says none, except a blank text and the truth value for no: these
count as zero, and remove the preference.  Main statement: `changed_as_said`.
-/

namespace AlertRelay.Server

open Program Web Preference Request

variable {σ : Type}

/-- The response to what performing a route gives. -/
def responseOf : Except Failure Response → Response
  | .ok response => response
  | .error f => failureResponse f

/-- Whether a request reaches a route, with the target that it is directed at. -/
structure Reaches (r : Web.Request) (t : Web.Target) (route : Route) : Prop where
  target : Web.Target.read? r.address.toList = some t
  route : ∃ segments, t.segments? = some segments ∧ Route.find? r.method segments = some route

/-- Whether an execution asks for nothing, leaves the state as it was, and ends with a response of a
status. -/
structure Refuses (e : Execution Response σ) (s : σ) (status : Nat) : Prop where
  asked : e.asked = []
  state : e.state = s
  answered : ∃ response, e.result = .ok response ∧ response.status = status

section Respond

variable (config : Config) {r : Web.Request} {t : Web.Target} {route : Route}
  (o : Surroundings σ) (s : σ)

/-- A request that reaches a route is answered for it, whatever is told to pages of other sites. -/
theorem execute_respond (h : Reaches r t route) {response : Response} {s' : σ} {asked : List Asked}
    (hanswer : (answer config r t (some route)).execute o s = ⟨.ok response, s', asked⟩) :
    ∃ final, (respond config r).execute o s = ⟨.ok final, s', asked⟩ ∧
      final.status = response.status := by
  obtain ⟨segments, hsegments, hroute⟩ := h.route
  have hmethod : r.method ≠ "OPTIONS" := by
    intro hoptions
    rw [hoptions] at hroute
    cases hroute
  let headers := (OriginPolicy.ofConfig config).headers (r.header? "origin")
  have hrespond : respond config r = (answer config r t (some route)).bind fun response =>
      .done ((sent r response).withHeaders headers) := by
    simp only [respond, h.target, hsegments, Option.isSome_some, if_true, respondTo, if_neg hmethod,
      Option.bind_some, hroute]
    rfl
  refine ⟨(sent r response).withHeaders headers, ?_, ?_⟩
  · rw [hrespond, execute_bind, hanswer, Execution.andThen_ok rfl]
    simp only [execute, List.append_nil]
  · unfold sent
    split <;> rfl

/-- Where the body can be read the route is performed. -/
theorem execute_answer_ok {body : Value} (hbody : r.readBody = .ok body) :
    let performed := (perform config (queryFields t.query) body route).execute o s
    (answer config r t (some route)).execute o s =
      ⟨.ok (responseOf performed.result), performed.state, performed.asked⟩ := by
  intro performed
  have hanswer : answer config r t (some route) =
      (perform config (queryFields t.query) body route).attempt.bind fun result =>
        .done (responseOf result) := by
    simp only [answer, hbody]
    refine congrArg (Program.bind _) (funext fun result => ?_)
    cases result <;> rfl
  rw [hanswer, execute_bind, execute_attempt, Execution.andThen_ok rfl]
  simp only [execute, List.append_nil]
  rfl

/-- Where the body cannot be read nothing is performed. -/
theorem execute_answer_error {fault : BodyFault} (hbody : r.readBody = .error fault) :
    (answer config r t (some route)).execute o s = ⟨.ok fault.response, s, []⟩ := by
  simp only [answer, hbody]
  rfl

end Respond

/-- The change that an update asks for. -/
def change (config : Config) (u : PreferenceUpdate) : Program Unit :=
  store.set config u.query.provider u.query.topic u.choice u.query.coordinates

/-- The removal of the preference that an update is about. -/
def removalOf (config : Config) (u : PreferenceUpdate) : Program Unit :=
  store.remove config u.query.provider u.query.topic u.query.coordinates

/-- Whether a request asks to store a preference. -/
structure AsksToStore (r : Web.Request) : Prop where
  method : r.method = "PUT"
  path : ∃ t, Web.Target.read? r.address.toList = some t ∧
    t.segments? = some ["api", "notification-settings"]

/-- The status of the answer to a change. -/
def statusOf : Except Failure Unit → Nat
  | .ok () => 200
  | .error f => f.answer.status

/-- Whether an execution is that of a refusal: for what the body says, or for what cannot be
converted in it. -/
def Dismisses (e : Execution Response σ) (s : σ) (body : Value) : Prop :=
  updateShape.failure? body = none ∧ Refuses e s 400 ∨
    (∃ thrown, updateShape.failure? body = some thrown) ∧ Refuses e s 500

/-- What comes of a request to store a preference. -/
structure Course (config : Config) (r : Web.Request) (o : Surroundings σ) (s : σ)
    (e : Execution Response σ) : Prop where
  /-- A body that cannot be read changes nothing. -/
  unread : ∀ {fault}, r.readBody = .error fault → Refuses e s fault.response.status
  /-- An update that the body says is proper, and is made. -/
  said : ∀ {body u}, r.readBody = .ok body → Says body u → IsProper u ∧
    e.asked = ((change config u).execute o s).asked ∧
      e.state = ((change config u).execute o s).state ∧
      ∃ response, e.result = .ok response ∧
        response.status = statusOf ((change config u).execute o s).result
  /-- A body that says no update changes nothing. -/
  unsaid : ∀ {body}, r.readBody = .ok body → (¬ ∃ u, Says body u) → Dismisses e s body
  /-- What is neither a choice nor void changes nothing in the place of a choice. -/
  malformed : ∀ {body}, r.readBody = .ok body → ¬ IsChoice (body.get "value") →
    ¬ IsVoid (body.get "value") → Dismisses e s body
  /-- What is void removes the preference in the place of a choice. -/
  void : ∀ {body u}, r.readBody = .ok body → IsVoid (body.get "value") → Says body u →
    e.asked = ((removalOf config u).execute o s).asked ∧
      e.state = ((removalOf config u).execute o s).state

section Course

variable {config : Config} {r : Web.Request} {body : Value} {u : PreferenceUpdate}
  (o : Surroundings σ) (s : σ)

theorem AsksToStore.reaches (h : AsksToStore r) : ∃ t, Reaches r t .storePreference := by
  obtain ⟨t, htarget, hsegments⟩ := h.path
  refine ⟨t, htarget, _, hsegments, ?_⟩
  rw [h.method]
  rfl

theorem execute_perform_ok (query : Value) (hu : PreferenceUpdate.ofValue body = .ok u) :
    let changed := (change config u).execute o s
    (perform config query body .storePreference).execute o s =
      ⟨changed.result.map fun _ => .ofValue 200 (choiceValue u.choice), changed.state,
        changed.asked⟩ := by
  intro changed
  have hperform : perform config query body .storePreference =
      (change config u).bind fun _ => .done (.ofValue 200 (choiceValue u.choice)) := by
    simp only [perform, hu]
    rfl
  rw [hperform, execute_bind]
  cases hresult : changed.result with
  | error f => simp only [Execution.andThen, changed, hresult, Except.map]
  | ok a => simp only [Execution.andThen, changed, hresult, Except.map, execute, List.append_nil]

theorem execute_perform_error (query : Value) {f : Failure}
    (hf : PreferenceUpdate.ofValue body = .error f) :
    (perform config query body .storePreference).execute o s = ⟨.error f, s, []⟩ := by
  simp only [perform, hf]
  rfl

theorem status_failureResponse (f : Failure) : (failureResponse f).status = f.answer.status := by
  unfold failureResponse
  split <;> rfl

/-- A choice to inherit removes the preference. -/
theorem change_of_inherit (hu : u.choice = .inherit) : change config u = removalOf config u := by
  unfold change removalOf Store.set Store.remove
  rw [hu, Preference.update, if_pos rfl]
  cases removal u.query.provider u.query.topic u.query.coordinates <;> rfl

/-- An update that the body says is made, and nothing else is done. -/
theorem execute_of_said (h : AsksToStore r) (hbody : r.readBody = .ok body) (hsay : Says body u) :
    let e := (respond config r).execute o s
    let changed := (change config u).execute o s
    e.asked = changed.asked ∧ e.state = changed.state ∧
      ∃ response, e.result = .ok response ∧ response.status = statusOf changed.result := by
  intro e changed
  obtain ⟨t, hreaches⟩ := h.reaches
  have hread := (ofValue_eq_ok_iff (isBody_of_readBody hbody)).mpr hsay
  have hanswer : (answer config r t (some .storePreference)).execute o s = _ :=
    execute_answer_ok config o s hbody
  rw [execute_perform_ok o s _ hread] at hanswer
  obtain ⟨final, hfinal, hstatus⟩ := execute_respond config o s hreaches hanswer
  change e = _ at hfinal
  rw [hfinal]
  refine ⟨rfl, rfl, final, rfl, ?_⟩
  rw [hstatus]
  change (responseOf (changed.result.map _)).status = _
  cases changed.result with
  | ok _ => rfl
  | error f => exact status_failureResponse f

/-- A body that says no update is refused. -/
theorem execute_of_unsaid (h : AsksToStore r) (hbody : r.readBody = .ok body)
    (hunsaid : ¬ ∃ u, Says body u) : Dismisses ((respond config r).execute o s) s body := by
  obtain ⟨t, hreaches⟩ := h.reaches
  cases hread : PreferenceUpdate.ofValue body with
  | ok u => exact absurd ⟨u, (ofValue_eq_ok_iff (isBody_of_readBody hbody)).mp hread⟩ hunsaid
  | error f =>
      have hanswer : (answer config r t (some .storePreference)).execute o s = _ :=
        execute_answer_ok config o s hbody
      rw [execute_perform_error o s _ hread] at hanswer
      obtain ⟨final, hfinal, hstatus⟩ := execute_respond config o s hreaches hanswer
      have hrefuses : Refuses ((respond config r).execute o s) s (failureResponse f).status := by
        rw [hfinal]
        exact ⟨rfl, rfl, final, rfl, hstatus⟩
      rcases ofValue_eq_error hread with ⟨thrown, hfailure, rfl⟩ | ⟨hnone, messages, rfl⟩
      · refine .inr ⟨⟨thrown, hfailure⟩, ?_⟩
        -- Both errors that can be in the way of converting say no status of their own.
        rcases failure?_cases hfailure with rfl | rfl
        · exact hrefuses
        · exact hrefuses
      · exact .inl ⟨hnone, hrefuses⟩

/-- A preference is changed just as the body of a request says, and a body that says no update
changes nothing. -/
theorem changed_as_said (h : AsksToStore r) :
    Course config r o s ((respond config r).execute o s) where
  unread hbody := by
    obtain ⟨t, hreaches⟩ := h.reaches
    obtain ⟨final, hfinal, hstatus⟩ :=
      execute_respond config o s hreaches (execute_answer_error config o s hbody)
    rw [hfinal]
    exact ⟨rfl, rfl, final, rfl, hstatus⟩
  said hbody hsay := ⟨hsay.isProper, execute_of_said o s h hbody hsay⟩
  unsaid hbody hunsaid := execute_of_unsaid o s h hbody hunsaid
  malformed hbody hchoice hvoid := by
    apply execute_of_unsaid o s h hbody
    rintro ⟨u, hsay⟩
    rcases hsay.choice_cases with hc | ⟨hv, _⟩
    · exact hchoice hc
    · exact hvoid hv
  void hbody hvoid hsay := by
    obtain ⟨hasked, hstate, _⟩ := execute_of_said o s h hbody hsay
    have hinherit := (hsay.choice_cases.resolve_left hvoid.not_isChoice).2
    rw [change_of_inherit hinherit] at hasked hstate
    exact ⟨hasked, hstate⟩

end Course

/-- A request to store a choice for a user, whatever stands in the place of the choice. -/
def storeFor (value : String) : Web.Request :=
  ⟨"PUT", "/api/notification-settings", [("content-type", "application/json")],
    some ("\x7b\"provider\":100,\"type\":\"20\",\"userId\":\"u1\",\"value\":" ++ value ++ "\x7d")⟩

theorem storeFor_asks (value : String) : AsksToStore (storeFor value) := by
  have hpath : (Web.Target.read? "/api/notification-settings".toList).bind Web.Target.segments? =
      some ["api", "notification-settings"] := by
    decide +kernel
  obtain ⟨t, htarget, hsegments⟩ := Option.bind_eq_some_iff.mp hpath
  exact ⟨rfl, t, htarget, hsegments⟩

/-- What the body of a request says, and the text that stands in it in the place of the choice. -/
def saidIn (r : Web.Request) : Option (PreferenceUpdate × Option String) :=
  r.readBody.toOption.bind fun body =>
    (PreferenceUpdate.ofValue body).toOption.map fun u => (u, (body.get "value").text?)

theorem says_of_saidIn {r : Web.Request} {u : PreferenceUpdate} {text : Option String}
    (h : saidIn r = some (u, text)) :
    ∃ body, r.readBody = .ok body ∧ Says body u ∧ (body.get "value").text? = text := by
  unfold saidIn at h
  cases hbody : r.readBody with
  | error fault =>
      rw [hbody] at h
      cases h
  | ok body =>
      rw [hbody] at h
      obtain ⟨u', hread, hsaid⟩ := Option.map_eq_some_iff.mp h
      obtain ⟨rfl, rfl⟩ := Prod.mk.inj hsaid
      refine ⟨body, rfl, (ofValue_eq_ok_iff (isBody_of_readBody hbody)).mp ?_, rfl⟩
      cases hvalue : PreferenceUpdate.ofValue body with
      | error f =>
          rw [hvalue] at hread
          cases hread
      | ok u'' =>
          rw [hvalue] at hread
          cases hread
          rfl

/-- Settings with nothing in them. -/
def bareConfig : Config := ⟨"", "", 0, 0, 0, 0, []⟩

/-- The coordinates of a user alone. -/
def ofUser (id : String) : Coordinates := ⟨some id, none, none, none⟩

/-- The key of what a user prefers about alerts by mail. -/
def userKey : Key := ⟨.email, .issueAlerts, ⟨.user, "u1"⟩, ⟨.user, "u1"⟩⟩

/-- A choice that is spelled in hexadecimal is stored. -/
theorem changed_as_said_spelled :
    AsksToStore (storeFor "\" 0x14 \"") ∧
      (∃ body, (storeFor "\" 0x14 \"").readBody = .ok body ∧
        Says body ⟨⟨.email, .issueAlerts, ofUser "u1"⟩, .always⟩) ∧
      Course bareConfig (storeFor "\" 0x14 \"") (Slack.repeating (.answered .null)) ()
        ((respond bareConfig (storeFor "\" 0x14 \"")).execute
          (Slack.repeating (.answered .null)) ()) := by
  have hsaid : saidIn (storeFor "\" 0x14 \"") =
      some (⟨⟨.email, .issueAlerts, ofUser "u1"⟩, .always⟩, some " 0x14 ") := by
    decide +kernel
  obtain ⟨body, hbody, hsay, _⟩ := says_of_saidIn hsaid
  exact ⟨storeFor_asks _, ⟨body, hbody, hsay⟩, changed_as_said _ _ (storeFor_asks _)⟩

/-- An empty text is no choice, and yet removes the preference of the user. -/
theorem emptyChoice_removes :
    ∃ body, (storeFor "\"\"").readBody = .ok body ∧ body.get "value" = .text "" ∧
      ¬ IsChoice (body.get "value") ∧
      let e := (respond bareConfig (storeFor "\"\"")).execute (Slack.repeating (.answered .null)) ()
      (∃ deletion ∈ e.asked,
        deletion.effect = .clientQuery (Statement.deleteSetting userKey).query) ∧
      ∃ response, e.result = .ok response ∧ response.status = 200 := by
  have hsaid : saidIn (storeFor "\"\"") =
      some (⟨⟨.email, .issueAlerts, ofUser "u1"⟩, .inherit⟩, some "") := by
    decide +kernel
  obtain ⟨body, hbody, hsay, htext⟩ := says_of_saidIn hsaid
  have hvalue : body.get "value" = .text "" := eq_text_of_text? htext
  have hvoid : IsVoid (body.get "value") := hvalue ▸ .blank (by decide)
  let writes : List Write :=
    [.dropSetting userKey, .dropOption ⟨"u1", "subscribe_by_default", none, none⟩]
  have hremoval : removal .email .issueAlerts (ofUser "u1") = .ok writes := by
    decide +kernel
  have hchange : change bareConfig ⟨⟨.email, .issueAlerts, ofUser "u1"⟩, .inherit⟩ =
      store.transact bareConfig writes (.ok ()) := by
    rw [change_of_inherit rfl, removalOf, Store.remove, hremoval]
    rfl
  obtain ⟨hasked, _, response, hresult, hstatus⟩ :=
    execute_of_said (Slack.repeating (.answered .null)) () (storeFor_asks _) hbody hsay
  rw [hchange] at hasked hstatus
  refine ⟨body, hbody, hvalue, hvoid.not_isChoice, ?_, response, hresult, hstatus.trans rfl⟩
  -- The deletion is the fourth thing asked for, after the beginning of the transaction.
  rw [hasked]
  exact ⟨_, List.mem_of_getElem? (i := 3) rfl, rfl⟩

end AlertRelay.Server
