import AlertRelay.Database.Access
import AlertRelay.Proofs.Program.Within

/-!
Limits of programs that query the database.

A query opens the pool of connections, unless it is open, and fails for whatever the database
answers.  A transaction steers its connection with three statements of its own, and keeps within the
limits that these and its body keep within (`within_transaction`).
-/

namespace AlertRelay.Database

open Program

variable {α : Type} {L : Limits}

theorem within_openPool (hasks : ∀ url, L.asks (.openPool url))
    (hchange : L.changes fun m => { m with poolOpen := true }) (config : Config) :
    (openPool config).Within L := by
  have hunless (wasOpen : Bool) : Within L (do
      unless wasOpen do perform (.openPool config.databaseUrl) : Program Unit) := by
    cases wasOpen with
    | true => trivial
    | false => exact ⟨hasks _, fun _ => trivial⟩
  exact ⟨hchange, fun m => hunless m.poolOpen⟩

theorem within_received (hfails : ∀ f, L.fails f) (r : Except Value α) :
    (received r).Within L := by
  cases r with
  | ok a => trivial
  | error thrown => exact hfails _

theorem within_query {config : Config} (hopen : (openPool config).Within L)
    (hfails : ∀ f, L.fails f) {q : Query} (hq : L.asks (.query q)) :
    (query config q).Within L :=
  hopen.bind fun _ => ⟨hq, within_received hfails⟩

theorem within_queryRow? {config : Config} (hopen : (openPool config).Within L)
    (hfails : ∀ f, L.fails f) {q : Query} (hq : L.asks (.query q)) :
    (queryRow? config q).Within L :=
  (within_query hopen hfails hq).bind fun _ => trivial

theorem within_clientQuery (hfails : ∀ f, L.fails f) {q : Query} (hq : L.asks (.clientQuery q)) :
    (clientQuery q).Within L :=
  ⟨hq, within_received hfails⟩

/-- What a transaction asks for besides what its body does. -/
structure Steering (L : Limits) : Prop where
  connect : L.asks .connect
  begin : L.asks (.clientQuery (.plain "BEGIN"))
  commit : L.asks (.clientQuery (.plain "COMMIT"))
  rollBack : L.asks (.clientQuery (.plain "ROLLBACK"))
  notice : ∀ level message context, L.asks (.notice level message context)
  release : ∀ reason, L.asks (.release reason)

theorem within_rollBack (h : Steering L) (hfails : ∀ f, L.fails f) : rollBack.Within L := by
  have hreport (thrown : Value) : (reportBroken thrown).Within L.mayFail := by
    unfold reportBroken
    cases untold? thrown with
    | none => exact Within.perform (h.notice _ _ _)
    | some e => trivial
  refine ⟨h.rollBack, fun r => ?_⟩
  cases r with
  | ok rows => exact ⟨h.release none, fun _ => trivial⟩
  | error thrown =>
      exact (hreport thrown).attempt.bind fun reported =>
        ⟨h.release _, fun _ => Within.ofExcept hfails reported⟩

theorem within_transaction {config : Config} {body : Program α} (h : Steering L)
    (hopen : (openPool config).Within L) (hfails : ∀ f, L.fails f) (hbody : body.Within L) :
    (transaction config body).Within L := by
  -- What is done on the connection may fail, and the failure becomes a result.
  have hsteer {text : String} (htext : L.asks (.clientQuery (.plain text))) :
      (steer text).Within L.mayFail := by
    have hquery : (clientQuery (.plain text)).Within L.mayFail :=
      within_clientQuery (fun _ => trivial) htext
    exact hquery.bind fun _ => trivial
  have hbodyMayFail : body.Within L.mayFail :=
    hbody.mono (fun _ h => h) (fun _ h => h) fun _ _ => trivial
  have hwork : Within L.mayFail (do
      steer "BEGIN"
      let a ← body
      steer "COMMIT"
      return a) :=
    (hsteer h.begin).bind fun _ =>
      hbodyMayFail.bind fun _ => (hsteer h.commit).bind fun _ => trivial
  have hattempt := hwork.attempt
  have hrollBack := within_rollBack h hfails
  refine hopen.bind fun _ => ⟨h.connect, fun r => ?_⟩
  refine (within_received hfails r).bind fun _ => hattempt.bind fun attempted => ?_
  cases attempted with
  | ok a => exact ⟨h.release none, fun _ => trivial⟩
  | error f => exact hrollBack.bind fun _ => hfails f

end AlertRelay.Database
