import AlertRelay.Attachment.IncidentAttachment
import AlertRelay.Channel.Job
import AlertRelay.Channel.Search
import AlertRelay.Database.Query
import AlertRelay.Integration.Basic
import AlertRelay.Log.Line
import AlertRelay.Preference.MemoryStore

/-!
Programs of the server.

A `Program` is a finite plan that may ask for things: the time, a query, a call to Slack, a
search.  It goes on according to the answer, ends with a result, or fails for a cause.
Nothing happens until somebody carries the program out, so what a program does can be read
off it.
-/

namespace AlertRelay

/-- What the server remembers between requests: whether the pool of database connections is
open, the jobs of look-ups, the look-ups that are in flight in the background, by their jobs,
which projects have releases, and, where no database keeps them, the preferences. -/
structure Memory where
  poolOpen : Bool
  jobs : Channel.Jobs
  inFlight : List String
  releases : ExpiringMap Bool
  preferences : Preference.MemoryStore

/-- The memory of a server that has just started. -/
def Memory.empty : Memory := ⟨false, .empty, [], .empty, .empty⟩

/-- A call to Slack: a method with parameters, by a client with a token and a time limit;
without a limit it is undefined. -/
structure SlackCall where
  token : String
  timeout : Value
  method : String
  params : Value

/-- What comes of a call to Slack: the client could not be made, the call threw, or it was
answered. -/
inductive SlackReply where
  | noClient (thrown : Value)
  | threw (thrown : Value)
  | answered (answer : Value)

/-- Work that goes on in the background. -/
inductive Background where
  | lookup (jobId organizationId : String) (workspace : Integration.Workspace) (name : String)
  | alert (action : Attachment.AlertAction) (incident : Attachment.Incident)
      (metricValue : Option Double)

/-- What a program may ask for.  A search is asked for by how it stands, and answered with how
it ends.  To drain is to wait until no look-up is in flight.  A program that gives way lets all
others that can go on have a turn first. -/
inductive Effect where
  | now
  | newId
  | log (level : Log.Level) (message : String) (context : List Value)
  | notice (level message context : String)
  | openPool (url : String)
  | closePool
  | query (q : Database.Query)
  | connect
  | clientQuery (q : Database.Query)
  | release (reason : Option Value)
  | slack (call : SlackCall)
  | search (next : Channel.Next)
  | spawn (work : Background)
  | drain
  | giveWay

/-- What an effect is answered with. -/
def Effect.Answer : Effect → Type
  | .now => Double
  | .newId => String
  | .log .. => Unit
  | .notice .. => Unit
  | .openPool _ => Unit
  | .closePool => Unit
  | .query _ => Except Value (List Database.Row)
  | .connect => Except Value Unit
  | .clientQuery _ => Except Value (List Database.Row)
  | .release _ => Unit
  | .slack _ => SlackReply
  | .search _ => Except Failure Channel.Outcome
  | .spawn _ => Unit
  | .drain => Unit
  | .giveWay => Unit

/-- A program with a result of type `α`.  `access` looks into the memory and changes it. -/
inductive Program (α : Type) where
  | done (a : α)
  | fail (f : Failure)
  | access (change : Memory → Memory) (next : Memory → Program α)
  | ask (e : Effect) (next : e.Answer → Program α)

namespace Program

variable {α β : Type}

/-- One program after another. -/
def bind : Program α → (α → Program β) → Program β
  | .done a, k => k a
  | .fail f, _ => .fail f
  | .access change next, k => .access change fun m => (next m).bind k
  | .ask e next, k => .ask e fun x => (next x).bind k

instance : Monad Program where
  pure := .done
  bind := .bind

/-- A program that does not fail: a failure becomes its result. -/
def attempt : Program α → Program (Except Failure α)
  | .done a => .done (.ok a)
  | .fail f => .done (.error f)
  | .access change next => .access change fun m => (next m).attempt
  | .ask e next => .ask e fun x => (next x).attempt

/-- Asks for one effect. -/
def perform (e : Effect) : Program e.Answer :=
  .ask e .done

/-- Fails for the cause in an answer, if there is one. -/
def ofExcept : Except Failure α → Program α
  | .ok a => .done a
  | .error f => .fail f

/-- Gives way so many times. -/
def giveWay : Nat → Program Unit
  | 0 => .done ()
  | n + 1 => .ask .giveWay fun _ => giveWay n

/-- A program whose result, or failure, is handed on from one stage to the next so many times,
and gives way at each of them. -/
def handedOn (stages : Nat) (p : Program α) : Program α :=
  p.attempt.bind fun r => (giveWay stages).bind fun _ => ofExcept r

/-- Looks into the memory. -/
def memory : Program Memory :=
  .access id .done

/-- Changes the memory, with a result that depends on what it was. -/
def update (step : Memory → α × Memory) : Program α :=
  .access (fun m => (step m).2) fun m => .done (step m).1

/-- The time, in milliseconds since the start of 1970. -/
def now : Program Double := perform .now

/-- Writes a record to the log. -/
def log (level : Log.Level) (message : String) (fields : List (String × Value)) :
    Program Unit :=
  perform (.log level message [.ofFields fields])

@[simp] theorem bind_done (p : Program α) : p.bind .done = p := by
  induction p with
  | done a => rfl
  | fail f => rfl
  | access change next ih => simp [bind, ih]
  | ask e next ih => simp [bind, ih]

theorem bind_assoc {γ : Type} (p : Program α) (f : α → Program β) (g : β → Program γ) :
    (p.bind f).bind g = p.bind fun a => (f a).bind g := by
  induction p with
  | done a => rfl
  | fail f => rfl
  | access change next ih => simp [bind, ih]
  | ask e next ih => simp [bind, ih]

instance : LawfulMonad Program :=
  LawfulMonad.mk' Program bind_done (fun _ _ => rfl) bind_assoc

end Program

end AlertRelay
