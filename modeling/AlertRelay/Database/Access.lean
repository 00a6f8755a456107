import AlertRelay.Config
import AlertRelay.Program.Basic

/-!
Queries and transactions.

The pool of connections is opened with the first query.  A transaction runs on a connection
of its own, between `BEGIN` and `COMMIT`; whatever fails in it, it is rolled back, and it is
that failure that counts, also if rolling back fails too.  Only where it cannot be told why
rolling back failed, what is thrown in the attempt takes its place.
-/

namespace AlertRelay.Database

open Program

variable {α : Type}

/-- The name under which trouble with the database is reported. -/
def reporter : String := "DatabaseService"

/-- Opens the pool of connections, unless it is open. -/
def openPool (config : Config) : Program Unit := do
  let wasOpen ← update fun m => (m.poolOpen, { m with poolOpen := true })
  unless wasOpen do perform (.openPool config.databaseUrl)

/-- A result, or the failure to get it. -/
def received (r : Except Value α) : Program α :=
  match r with
  | .ok a => pure a
  | .error thrown => .fail (.foreign thrown)

/-- The rows that a statement gives. -/
def query (config : Config) (q : Query) : Program (List Row) := do
  openPool config
  received (← perform (.query q))

/-- The first row that a statement gives; an empty value counts for none. -/
def queryRow? (config : Config) (q : Query) : Program (Option Row) :=
  return (← query config q).head?.filter Value.isTruthy

/-- The rows that a statement gives within a transaction. -/
def clientQuery (q : Query) : Program (List Row) := do
  received (← perform (.clientQuery q))

/-- A statement that only steers a transaction. -/
def steer (text : String) : Program Unit := do
  discard <| clientQuery (.plain text)

/-- What tells why a connection is broken: the message of an error, or else the value itself
that was thrown. -/
def brokenSource (thrown : Value) : Value :=
  match thrown with
  | .error _ _ _ => thrown.get "message"
  | v => v

/-- What is thrown where it cannot be told why a connection is broken. -/
def untold? (thrown : Value) : Option Value :=
  (brokenSource thrown).textFailure? []

/-- The reason that a broken connection is released with: the message of an error, whatever it
is, or the text of anything else that was thrown, if it has one. -/
def brokenReason? (thrown : Value) : Option Value :=
  match thrown with
  | .error _ _ _ => some (thrown.get "message")
  | v => (untold? v).elim (some (.text v.display)) fun _ => none

/-- Reports that rolling back failed. -/
def reportBroken (thrown : Value) : Program Unit :=
  match untold? thrown with
  | some e => .fail (.foreign e)
  | none =>
    perform (.notice "error" ("ROLLBACK failed: " ++ (brokenSource thrown).display) reporter)

/-- Rolls back.  If that fails, the connection cannot be used again, and is released with the
reason.  That the reason cannot be told is a failure of its own, and the connection is released
all the same. -/
def rollBack : Program Unit := do
  match ← perform (.clientQuery (.plain "ROLLBACK")) with
  | .ok _ => perform (.release none)
  | .error thrown =>
    let reported ← attempt (reportBroken thrown)
    perform (.release (brokenReason? thrown))
    ofExcept reported

/-- Runs a program on a connection of its own as one transaction. -/
def transaction (config : Config) (body : Program α) : Program α := do
  openPool config
  received (← perform .connect)
  let attempted ← attempt do
    steer "BEGIN"
    let a ← body
    steer "COMMIT"
    return a
  match attempted with
  | .ok a =>
    perform (.release none)
    return a
  | .error f =>
    rollBack
    .fail f

/-- Reports the failure of a connection that was not in use. -/
def reportIdleFailure (config : Config) (message : String) : Program Unit := do
  openPool config
  perform (.notice "error" ("Idle PostgreSQL client error: " ++ message) reporter)

/-- Closes the pool of connections, if it is open. -/
def closePool : Program Unit := do
  let wasOpen ← update fun m => (m.poolOpen, { m with poolOpen := false })
  if wasOpen then perform .closePool

end AlertRelay.Database
