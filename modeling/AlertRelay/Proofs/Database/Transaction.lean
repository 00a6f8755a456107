import AlertRelay.Database.Access
import AlertRelay.Proofs.Program.Execution

/-!
Courses of transactions.

`Steps` records how the steps of a transaction went; a step that was not reached is missing.
Main statement: whatever fails, a transaction takes its steps in order, rolls back exactly after
a failure, and releases its connection once and at the end (`transaction_steps`).  It fails for
what failed first, unless rolling back fails with something that has no text: then what is
thrown instead takes the place of that failure, and the connection may be released as if nothing
was wrong with it (`commit_failure_replaced`).
-/

namespace AlertRelay.Database

open Program

variable {α σ : Type}

/-- A statement with its answer. -/
abbrev Sent := Query × Except Value (List Row)

/-- What a connection sees of a transaction. -/
inductive OnConnection where
  | connected (answer : Except Value Unit)
  | statement (sent : Sent)
  | released (reason : Option Value)

/-- What a connection sees of a request. -/
def onConnection? : Asked → Option OnConnection
  | ⟨.connect, answer⟩ => some (.connected answer)
  | ⟨.clientQuery q, answer⟩ => some (.statement (q, answer))
  | ⟨.release reason, _⟩ => some (.released reason)
  | _ => none

/-- What a connection sees of all that was asked for. -/
def onConnection (asked : List Asked) : List OnConnection :=
  asked.filterMap onConnection?

/-- The statements among what was asked for. -/
def sent (asked : List Asked) : List Sent :=
  asked.filterMap fun
    | ⟨.clientQuery q, answer⟩ => some (q, answer)
    | _ => none

@[simp] theorem onConnection_nil : onConnection [] = [] := rfl

@[simp] theorem onConnection_append (t u : List Asked) :
    onConnection (t ++ u) = onConnection t ++ onConnection u :=
  List.filterMap_append

@[simp] theorem onConnection_statement (q : Query) (answer : Except Value (List Row))
    (t : List Asked) :
    onConnection (⟨.clientQuery q, answer⟩ :: t) = .statement (q, answer) :: onConnection t := rfl

theorem onConnection_connected (answer : Except Value Unit) (t : List Asked) :
    onConnection (⟨.connect, answer⟩ :: t) = .connected answer :: onConnection t := rfl

/-- The opening of a pool is no business of its connections. -/
theorem onConnection_opening {opening : List Asked} {url : String}
    (h : ∀ a ∈ opening, a.effect = .openPool url) : onConnection opening = [] := by
  refine List.filterMap_eq_nil_iff.mpr fun a ha => ?_
  obtain ⟨effect, answer⟩ := a
  cases h _ ha
  rfl

/-- What the body of a transaction is limited to: it neither opens nor releases connections,
since it is given one. -/
def ofBody : Limits where
  asks
    | .connect => False
    | .release _ => False
    | _ => True
  changes _ := True
  fails _ := True

theorem onConnection_of_body {asked : List Asked} (h : ∀ a ∈ asked, ofBody.asks a.effect) :
    onConnection asked = (sent asked).map .statement := by
  induction asked with
  | nil => rfl
  | cons a asked ih =>
      have hrest := ih fun a' ha' => h a' (List.mem_cons_of_mem a ha')
      have hfirst := h a List.mem_cons_self
      obtain ⟨effect, answer⟩ := a
      unfold onConnection sent at hrest ⊢
      cases effect with
      | connect => exact hfirst.elim
      | release reason => exact hfirst.elim
      | clientQuery q => exact congrArg (OnConnection.statement (q, answer) :: ·) hrest
      | _ => exact hrest

/-- How the steps of a transaction went, as far as they were reached. -/
structure Steps (α σ : Type) where
  begun : Except Value (List Row)
  body : Option (Execution α σ)
  committed : Option (Except Value (List Row))
  rolledBack : Option (Except Value (List Row))

namespace Steps

/-- The failure of the first step that failed, rolling back apart. -/
def failure? (t : Steps α σ) : Option Failure :=
  match t.begun with
  | .error thrown => some (.foreign thrown)
  | .ok _ =>
    match t.body.map Execution.result with
    | some (.error f) => some f
    | _ =>
      match t.committed with
      | some (.error thrown) => some (.foreign thrown)
      | _ => none

/-- The body is carried out exactly if the transaction began, and `COMMIT` is sent exactly if
both went well. -/
structure Reached (o : Surroundings σ) (body : Program α) (t : Steps α σ) : Prop where
  body_iff : t.body.isSome ↔ ∃ rows, t.begun = .ok rows
  committed_iff : t.committed.isSome ↔ ∃ r a, t.body = some r ∧ r.result = .ok a
  body_eq : ∀ r, t.body = some r → ∃ s, r = body.execute o s

/-- What is done on a connection has the result of the body exactly if `COMMIT` went well, and
fails for what failed first. -/
structure Attempts (t : Steps α σ) (attempted : Except Failure α) : Prop where
  ok_iff : ∀ a, attempted = .ok a ↔
    (∃ rows, t.committed = some (.ok rows)) ∧ ∃ r, t.body = some r ∧ r.result = .ok a
  error_iff : ∀ f, attempted = .error f ↔ t.failure? = some f

/-- What rolling back failed with, if it was tried and failed. -/
def broken? : Option (Except Value (List Row)) → Option Value
  | some (.error thrown) => some thrown
  | _ => none

/-- What is thrown where it cannot be told how rolling back failed. -/
def untold? (t : Steps α σ) : Option Value :=
  (broken? t.rolledBack).bind Database.untold?

/-- The reason that the connection is released with. -/
def reason? (t : Steps α σ) : Option Value :=
  (broken? t.rolledBack).bind brokenReason?

/-- A transaction has the result of its body exactly if `COMMIT` went well.  If it can be told how
rolling back failed, or it did not, the transaction fails for what failed first, and has a reason
to release its connection with exactly if rolling back failed.  If that cannot be told, this is
the failure, and there is a reason exactly if an error was thrown. -/
structure EndsWith (t : Steps α σ) (result : Except Failure α) : Prop where
  ok_iff : ∀ a, result = .ok a ↔
    (∃ rows, t.committed = some (.ok rows)) ∧ ∃ r, t.body = some r ∧ r.result = .ok a
  told : t.untold? = none → (∀ f, result = .error f ↔ t.failure? = some f) ∧
    (t.reason?.isSome ↔ ∃ thrown, t.rolledBack = some (.error thrown))
  untold : ∀ e, t.untold? = some e → result = .error (.foreign e) ∧
    (t.reason?.isSome ↔ ∃ id kind fields, t.rolledBack = some (.error (.error id kind fields)))

/-- A statement that steers a transaction, if it was sent. -/
def steered (text : String) (answer : Option (Except Value (List Row))) : List Sent :=
  answer.elim [] fun answer => [(.plain text, answer)]

/-- The statements of a transaction, those of its body among them. -/
def statements (t : Steps α σ) : List Sent :=
  (.plain "BEGIN", t.begun) :: t.body.elim [] (fun r => sent r.asked) ++
    steered "COMMIT" t.committed ++ steered "ROLLBACK" t.rolledBack

end Steps

/-- There is a reason to release a connection with if it can be told why it is broken, and if an
error was thrown. -/
theorem isSome_brokenReason?_iff (thrown : Value) :
    (brokenReason? thrown).isSome ↔
      untold? thrown = none ∨ ∃ id kind fields, thrown = .error id kind fields := by
  by_cases herror : ∃ id kind fields, thrown = .error id kind fields
  · obtain ⟨id, kind, fields, rfl⟩ := herror
    exact iff_of_true rfl (.inr ⟨id, kind, fields, rfl⟩)
  · have hreason : brokenReason? thrown =
        (untold? thrown).elim (some (.text thrown.display)) fun _ => none := by
      unfold brokenReason?
      split
      · exact absurd ⟨_, _, _, rfl⟩ herror
      · rfl
    rw [hreason]
    cases untold? thrown with
    | none => exact iff_of_true rfl (.inl rfl)
    | some e => simp [herror]

section Parts

variable (o : Surroundings σ)

/-- Opening the pool goes well, and nothing else is asked for. -/
theorem execute_openPool (config : Config) (s : σ) :
    ((openPool config).execute o s).result = .ok () ∧
      ∀ a ∈ ((openPool config).execute o s).asked, a.effect = .openPool config.databaseUrl := by
  simp only [openPool, Bind.bind, execute_bind, update, execute, Execution.andThen]
  generalize (o.access s fun m => { m with poolOpen := true }) = seen
  cases hopen : seen.1.poolOpen with
  | true => exact ⟨rfl, fun a ha => absurd ha List.not_mem_nil⟩
  | false => exact ⟨rfl, fun a ha => by rw [List.mem_singleton.mp ha]⟩

/-- A statement that steers a transaction fails only for what is thrown at it. -/
theorem execute_steer (text : String) (s : σ) :
    (steer text).execute o s =
      ⟨match (o.answer s (.clientQuery (.plain text))).1 with
        | .ok _ => .ok ()
        | .error thrown => .error (.foreign thrown),
        (o.answer s (.clientQuery (.plain text))).2,
        [⟨.clientQuery (.plain text), (o.answer s (.clientQuery (.plain text))).1⟩]⟩ := by
  have hsteer : steer text =
      .ask (.clientQuery (.plain text)) fun x => (received x).bind fun _ => .done () := rfl
  rw [hsteer]
  simp only [execute]
  generalize o.answer s (.clientQuery (.plain text)) = x
  obtain ⟨answer, s'⟩ := x
  cases answer with
  | ok rows => rfl
  | error thrown => rfl

/-- The connection is released whatever comes of rolling back, and rolling back fails only where
it cannot be told how it failed. -/
theorem execute_rollBack (s : σ) :
    ∃ answer, onConnection (rollBack.execute o s).asked =
        [.statement (.plain "ROLLBACK", answer),
          .released ((Steps.broken? (some answer)).bind brokenReason?)] ∧
      (rollBack.execute o s).result =
        ((Steps.broken? (some answer)).bind untold?).elim (.ok ()) fun e => .error (.foreign e) := by
  cases hanswer : (o.answer s (.clientQuery (.plain "ROLLBACK"))).1 with
  | ok rows =>
      refine ⟨.ok rows, ?_⟩
      simp only [rollBack, Bind.bind, execute_bind, perform, execute, Execution.andThen, hanswer]
      exact ⟨rfl, rfl⟩
  | error thrown =>
      refine ⟨.error thrown, ?_⟩
      simp only [rollBack, Bind.bind, execute_bind, execute_attempt, perform, execute,
        Execution.andThen, hanswer, reportBroken, Steps.broken?, Option.bind_some]
      cases untold? thrown with
      | none => exact ⟨rfl, rfl⟩
      | some e => exact ⟨rfl, rfl⟩

/-- What a transaction does on its connection, unless something fails. -/
def inside (body : Program α) : Program α := do
  steer "BEGIN"
  let a ← body
  steer "COMMIT"
  return a

theorem execute_inside (body : Program α) (s : σ) :
    (inside body).execute o s = ((steer "BEGIN").execute o s).andThen fun _ s =>
      (body.execute o s).andThen fun a s => ((steer "COMMIT").execute o s).andThen fun _ s =>
        ⟨.ok a, s, []⟩ := by
  simp only [inside, Bind.bind, execute_bind, Pure.pure, execute]

/-- The steps of a transaction up to the first failure. -/
theorem inside_steps {body : Program α} (hwithin : body.Within ofBody) (s : σ) :
    ∃ t : Steps α σ, t.rolledBack = none ∧ t.Reached o body ∧
      onConnection ((inside body).execute o s).asked = t.statements.map .statement ∧
      t.Attempts ((inside body).execute o s).result := by
  rw [execute_inside, execute_steer]
  rcases o.answer s (.clientQuery (.plain "BEGIN")) with ⟨begun, s₁⟩
  cases begun with
  | error thrown =>
      refine ⟨⟨.error thrown, none, none, none⟩, rfl, ⟨by simp, by simp, by simp⟩, rfl,
        ⟨?_, ?_⟩⟩
      · intro a
        simp [Execution.andThen]
      · intro f
        simp [Execution.andThen, Steps.failure?]
  | ok rows =>
      rw [Execution.andThen_ok rfl]
      have hsent := onConnection_of_body fun a ha => hwithin.of_mem_asked o s₁ ha
      have heq : ∀ r, some (body.execute o s₁) = some r → ∃ s', r = body.execute o s' := by
        rintro r ⟨⟩
        exact ⟨s₁, rfl⟩
      rcases hbody : body.execute o s₁ with ⟨result, s₂, asked⟩
      rw [hbody] at heq hsent
      simp only at hsent
      cases result with
      | error f =>
          refine ⟨⟨.ok rows, some ⟨.error f, s₂, asked⟩, none, none⟩, rfl,
            ⟨by simp, by simp, heq⟩, ?_, ⟨?_, ?_⟩⟩
          · simp [Execution.andThen, Steps.statements, Steps.steered, hsent]
          · intro a
            simp [Execution.andThen]
          · intro f'
            simp [Execution.andThen, Steps.failure?]
      | ok a =>
          rw [Execution.andThen_ok rfl, execute_steer]
          rcases o.answer s₂ (.clientQuery (.plain "COMMIT")) with ⟨committed, s₃⟩
          cases committed with
          | error thrown =>
              refine ⟨⟨.ok rows, some ⟨.ok a, s₂, asked⟩, some (.error thrown), none⟩, rfl,
                ⟨by simp, by simp, heq⟩, ?_, ⟨?_, ?_⟩⟩
              · simp [Execution.andThen, Steps.statements, Steps.steered, hsent]
              · intro a'
                simp [Execution.andThen]
              · intro f
                simp [Execution.andThen, Steps.failure?]
          | ok rows' =>
              refine ⟨⟨.ok rows, some ⟨.ok a, s₂, asked⟩, some (.ok rows'), none⟩, rfl,
                ⟨by simp, by simp, heq⟩, ?_, ⟨?_, ?_⟩⟩
              · simp [Execution.andThen, Steps.statements, Steps.steered, hsent]
              · intro a'
                simp [Execution.andThen]
              · intro f
                simp [Execution.andThen, Steps.failure?]

/-- What a transaction does when all is done on its connection, or something failed. -/
def closing (attempted : Except Failure α) : Program α :=
  match attempted with
  | .ok a => do
    perform (.release none)
    return a
  | .error f => do
    rollBack
    .fail f

/-- What is done on the connection of a transaction stands between opening and closing it. -/
theorem transaction_eq (config : Config) (body : Program α) :
    transaction config body = (openPool config).bind fun _ =>
      .ask .connect fun answer => (received answer).bind fun _ =>
        (inside body).attempt.bind closing :=
  rfl

/-- A transaction that failed is rolled back, and its connection is released in the end; only
where it cannot be told how rolling back failed, its result is another one. -/
theorem execute_closing (attempted : Except Failure α) (s : σ) :
    ∃ rolledBack, (rolledBack.isSome ↔ ∃ f, attempted = .error f) ∧
      onConnection ((closing attempted).execute o s).asked =
        (Steps.steered "ROLLBACK" rolledBack).map .statement ++
          [.released ((Steps.broken? rolledBack).bind brokenReason?)] ∧
      ((closing attempted).execute o s).result =
        ((Steps.broken? rolledBack).bind untold?).elim attempted fun e => .error (.foreign e) := by
  cases attempted with
  | ok a => exact ⟨none, by simp, rfl, rfl⟩
  | error f =>
      obtain ⟨answer, hseen, hresult⟩ := execute_rollBack o s
      refine ⟨some answer, by simp, ?_⟩
      simp only [closing, Bind.bind, execute_bind]
      cases huntold : (Steps.broken? (some answer)).bind untold? with
      | none =>
          rw [huntold] at hresult
          rw [Execution.andThen_ok hresult]
          refine ⟨?_, rfl⟩
          rw [execute, List.append_nil, hseen]
          rfl
      | some e =>
          rw [huntold] at hresult
          simp only [Execution.andThen, hresult]
          exact ⟨hseen, rfl⟩

end Parts

namespace Steps

variable {t : Steps α σ}

theorem broken?_eq_some_iff {thrown : Value} :
    broken? t.rolledBack = some thrown ↔ t.rolledBack = some (.error thrown) := by
  rcases t.rolledBack with _ | _ | _ <;> simp [broken?]

/-- There is a reason exactly if rolling back failed and this can be told, or an error was thrown. -/
theorem isSome_reason?_iff : t.reason?.isSome ↔ ∃ thrown, t.rolledBack = some (.error thrown) ∧
    (Database.untold? thrown = none ∨ ∃ id kind fields, thrown = .error id kind fields) := by
  simp only [reason?, Option.isSome_bind, Option.any_eq_true, isSome_brokenReason?_iff,
    broken?_eq_some_iff]

theorem untold?_eq_some_iff {e : Value} : t.untold? = some e ↔
    ∃ thrown, t.rolledBack = some (.error thrown) ∧ Database.untold? thrown = some e := by
  simp only [untold?, Option.bind_eq_some_iff, broken?_eq_some_iff]

/-- How a transaction ends, from how what was done on its connection went. -/
theorem Attempts.endsWith {attempted : Except Failure α} (h : t.Attempts attempted)
    (hrolled : t.rolledBack.isSome ↔ ∃ f, attempted = .error f) :
    t.EndsWith (t.untold?.elim attempted fun e => .error (.foreign e)) := by
  cases huntold : t.untold? with
  | none =>
      have htold {thrown : Value} (hthrown : t.rolledBack = some (.error thrown)) :
          Database.untold? thrown = none := by
        cases he : Database.untold? thrown with
        | none => rfl
        | some e => cases huntold.symm.trans (untold?_eq_some_iff.mpr ⟨thrown, hthrown, he⟩)
      refine ⟨h.ok_iff, fun _ => ⟨h.error_iff, ?_⟩, fun e he => ?_⟩
      · rw [isSome_reason?_iff]
        exact exists_congr fun thrown => and_iff_left_of_imp fun hthrown => .inl (htold hthrown)
      · cases huntold.symm.trans he
  | some e =>
      obtain ⟨thrown, hthrown, he⟩ := untold?_eq_some_iff.mp huntold
      -- Only what failed is rolled back, so the transaction had no result to lose.
      obtain ⟨f, rfl⟩ := hrolled.mp (by rw [hthrown]; rfl)
      refine ⟨fun a => ?_, fun hnone => ?_, ?_⟩
      · rw [← h.ok_iff a]
        exact iff_of_false (by simp) (by simp)
      · cases huntold.symm.trans hnone
      · rintro e' he'
        cases huntold.symm.trans he'
        refine ⟨rfl, ?_⟩
        rw [isSome_reason?_iff, hthrown]
        constructor
        · rintro ⟨_, hsame, hnone | ⟨id, kind, fields, rfl⟩⟩
          · cases hsame
            cases he.symm.trans hnone
          · exact ⟨id, kind, fields, hsame⟩
        · rintro ⟨id, kind, fields, hsame⟩
          exact ⟨_, hsame, .inr ⟨id, kind, fields, rfl⟩⟩

end Steps

/-- A transaction fails if no connection can be opened, and then nothing else happens.  Else what is
done on its connection comes between opening and closing. -/
theorem execute_transaction (o : Surroundings σ) (config : Config) (body : Program α) (s : σ) :
    ∃ opening, (∀ a ∈ opening, a.effect = .openPool config.databaseUrl) ∧
      ((∃ thrown, ((transaction config body).execute o s).asked =
            opening ++ [⟨.connect, .error thrown⟩] ∧
          ((transaction config body).execute o s).result = .error (.foreign thrown)) ∨
        ∃ s₁, onConnection ((transaction config body).execute o s).asked =
            .connected (.ok ()) :: onConnection ((inside body).execute o s₁).asked ++
              onConnection ((closing ((inside body).execute o s₁).result).execute o
                ((inside body).execute o s₁).state).asked ∧
          ((transaction config body).execute o s).result =
            ((closing ((inside body).execute o s₁).result).execute o
              ((inside body).execute o s₁).state).result) := by
  obtain ⟨hopen, hopening⟩ := execute_openPool o config s
  refine ⟨((openPool config).execute o s).asked, hopening, ?_⟩
  rw [transaction_eq, execute_bind, Execution.andThen_ok hopen]
  simp only [execute]
  rcases o.answer ((openPool config).execute o s).state .connect with ⟨answer, s₁⟩
  cases answer with
  | error thrown => exact .inl ⟨thrown, rfl, rfl⟩
  | ok u =>
      have hreceived : (received (.ok u)).bind (fun _ => (inside body).attempt.bind closing) =
          (inside body).attempt.bind closing := rfl
      rw [hreceived, execute_bind, execute_attempt, Execution.andThen_ok rfl]
      refine .inr ⟨s₁, ?_, rfl⟩
      rw [onConnection_append, onConnection_opening hopening, onConnection_connected,
        onConnection_append]
      rfl

/-- The steps of a transaction, with what came of those before rolling back. -/
theorem exists_steps (o : Surroundings σ) (config : Config) {body : Program α}
    (hwithin : body.Within ofBody) (s : σ) :
    ∃ opening, (∀ a ∈ opening, a.effect = .openPool config.databaseUrl) ∧
      ((∃ thrown, ((transaction config body).execute o s).asked =
            opening ++ [⟨.connect, .error thrown⟩] ∧
          ((transaction config body).execute o s).result = .error (.foreign thrown)) ∨
        ∃ (t : Steps α σ) (attempted : Except Failure α), t.Reached o body ∧
          t.Attempts attempted ∧ (t.rolledBack.isSome ↔ ∃ f, attempted = .error f) ∧
          onConnection ((transaction config body).execute o s).asked =
            .connected (.ok ()) :: t.statements.map .statement ++ [.released t.reason?] ∧
          ((transaction config body).execute o s).result =
            t.untold?.elim attempted fun e => .error (.foreign e)) := by
  obtain ⟨opening, hopening, hrefused | ⟨s₁, hseen, hresult⟩⟩ :=
    execute_transaction o config body s
  · exact ⟨opening, hopening, .inl hrefused⟩
  · obtain ⟨t, hnone, hreached, hinside, hattempts⟩ := inside_steps o hwithin s₁
    obtain ⟨rolledBack, hrolled, hclosing, hclosed⟩ := execute_closing o
      ((inside body).execute o s₁).result ((inside body).execute o s₁).state
    have hstatements : ({ t with rolledBack := rolledBack } : Steps α σ).statements =
        t.statements ++ Steps.steered "ROLLBACK" rolledBack := by
      simp only [Steps.statements, hnone, Steps.steered, Option.elim_none, List.append_nil]
    refine ⟨opening, hopening, .inr ⟨{ t with rolledBack := rolledBack }, _,
      ⟨hreached.body_iff, hreached.committed_iff, hreached.body_eq⟩,
      ⟨hattempts.ok_iff, hattempts.error_iff⟩, hrolled, ?_, hresult.trans hclosed⟩⟩
    rw [hseen, hinside, hclosing, hstatements, List.map_append]
    simp only [List.cons_append, List.append_assoc]
    rfl

/-- The courses of a transaction.  If no connection can be opened, that is the failure, and
nothing else happens.  Otherwise the connection sees `BEGIN`, the statements of the body, and
`COMMIT`, each if all before went well; `ROLLBACK` after a failure; and at the end, once, the
release. -/
theorem transaction_steps (o : Surroundings σ) (config : Config) {body : Program α}
    (hwithin : body.Within ofBody) (s : σ) :
    ∃ opening, (∀ a ∈ opening, a.effect = .openPool config.databaseUrl) ∧
      ((∃ thrown, ((transaction config body).execute o s).asked =
            opening ++ [⟨.connect, .error thrown⟩] ∧
          ((transaction config body).execute o s).result = .error (.foreign thrown)) ∨
        ∃ t : Steps α σ, t.Reached o body ∧
          (t.rolledBack.isSome ↔ ∃ f, t.failure? = some f) ∧
          onConnection ((transaction config body).execute o s).asked =
            .connected (.ok ()) :: t.statements.map .statement ++ [.released t.reason?] ∧
          t.EndsWith ((transaction config body).execute o s).result) := by
  obtain ⟨opening, hopening, hrefused | ⟨t, attempted, hreached, hattempts, hrolled, hseen,
    hresult⟩⟩ := exists_steps o config hwithin s
  · exact ⟨opening, hopening, .inl hrefused⟩
  · refine ⟨opening, hopening, .inr ⟨t, hreached, ?_, hseen, ?_⟩⟩
    · rw [hrolled]
      exact exists_congr hattempts.error_iff
    · rw [hresult]
      exact hattempts.endsWith hrolled

/-- A body with two statements. -/
def twoInserts : Program Nat := do
  let first ← clientQuery (.plain "INSERT 1")
  let second ← clientQuery (.plain "INSERT 2")
  return first.length + second.length

/-- Surroundings in which the statements of transactions are answered by their texts. -/
def scripted (answer : String → Except Value (List Row)) : Surroundings Unit where
  answer _ e :=
    (match e with
      | .now => (0 : Double)
      | .newId => ("" : String)
      | .log .. => ()
      | .notice .. => ()
      | .openPool _ => ()
      | .closePool => ()
      | .query _ => .ok []
      | .connect => .ok ()
      | .clientQuery q => answer q.text
      | .release _ => ()
      | .slack _ => .threw .undefined
      | .search _ => .error (.foreign .undefined)
      | .spawn _ => ()
      | .drain => ()
      | .giveWay => (), ())
  access _ _ := (.empty, ())

/-- Surroundings in which the second statement of a body fails, and rolling back too. -/
def brittle : Surroundings Unit :=
  scripted fun text =>
    if text = "INSERT 2" ∨ text = "ROLLBACK" then .error (.text text) else .ok []

theorem transaction_twoInserts :
    twoInserts.Within ofBody ∧
      ∃ opening, (∀ a ∈ opening, a.effect = .openPool "") ∧
        ((∃ thrown, ((transaction ⟨"", "", 0, 0, 0, 0, []⟩ twoInserts).execute brittle ()).asked =
              opening ++ [⟨.connect, .error thrown⟩] ∧
            ((transaction ⟨"", "", 0, 0, 0, 0, []⟩ twoInserts).execute brittle ()).result =
              .error (.foreign thrown)) ∨
          ∃ t : Steps Nat Unit, t.Reached brittle twoInserts ∧
            (t.rolledBack.isSome ↔ ∃ f, t.failure? = some f) ∧
            onConnection
                ((transaction ⟨"", "", 0, 0, 0, 0, []⟩ twoInserts).execute brittle ()).asked =
              .connected (.ok ()) :: t.statements.map .statement ++ [.released t.reason?] ∧
            t.EndsWith
              ((transaction ⟨"", "", 0, 0, 0, 0, []⟩ twoInserts).execute brittle ()).result) := by
  have hwithin : twoInserts.Within ofBody := by
    refine ⟨trivial, fun answer => ?_⟩
    cases answer with
    | error thrown => trivial
    | ok first =>
        refine ⟨trivial, fun answer => ?_⟩
        cases answer with
        | error thrown => trivial
        | ok second => trivial
  exact ⟨hwithin, transaction_steps brittle ⟨"", "", 0, 0, 0, 0, []⟩ hwithin ()⟩

/-- The failure of the body counts, and the connection is released with that of rolling back. -/
example :
    ((transaction ⟨"", "", 0, 0, 0, 0, []⟩ twoInserts).execute brittle ()).result =
        .error (.foreign (.text "INSERT 2")) ∧
      onConnection ((transaction ⟨"", "", 0, 0, 0, 0, []⟩ twoInserts).execute brittle ()).asked =
        [.connected (.ok ()), .statement (.plain "BEGIN", .ok []),
          .statement (.plain "INSERT 1", .ok []),
          .statement (.plain "INSERT 2", .error (.text "INSERT 2")),
          .statement (.plain "ROLLBACK", .error (.text "ROLLBACK")),
          .released (some (.text "ROLLBACK"))] :=
  ⟨rfl, rfl⟩

/-- The failure of a `COMMIT`. -/
def commitError : Value :=
  .error none .error [("message", .text "E")]

/-- What has no text, since what stands in place of its text is none. -/
def speechless : Value :=
  .ofFields [("toString", .text "x")]

/-- Surroundings in which a transaction cannot be committed, and rolling back fails with what has
no text. -/
def mute : Surroundings Unit :=
  scripted fun text =>
    if text = "COMMIT" then .error commitError
    else if text = "ROLLBACK" then .error speechless
    else .ok []

/-- A transaction may fail for something else than the failure of its `COMMIT`, and its connection
may be released as if it could be used again although rolling back failed. -/
theorem commit_failure_replaced :
    ((transaction ⟨"", "", 0, 0, 0, 0, []⟩ twoInserts).execute mute ()).result ≠
        .error (.foreign commitError) ∧
      ((transaction ⟨"", "", 0, 0, 0, 0, []⟩ twoInserts).execute mute ()).result =
        .error (.foreign Value.noTextError) ∧
      onConnection ((transaction ⟨"", "", 0, 0, 0, 0, []⟩ twoInserts).execute mute ()).asked =
        [.connected (.ok ()), .statement (.plain "BEGIN", .ok []),
          .statement (.plain "INSERT 1", .ok []), .statement (.plain "INSERT 2", .ok []),
          .statement (.plain "COMMIT", .error commitError),
          .statement (.plain "ROLLBACK", .error speechless), .released none] := by
  have hresult : ((transaction ⟨"", "", 0, 0, 0, 0, []⟩ twoInserts).execute mute ()).result =
      .error (.foreign Value.noTextError) := rfl
  refine ⟨?_, hresult, rfl⟩
  rw [hresult]
  rintro ⟨⟩

end AlertRelay.Database
