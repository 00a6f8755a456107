import AlertRelay.Background
import AlertRelay.Program.Turn

/-!
Rehearsals: programs carried out against scripted replies.

A script holds the replies of the database and of Slack.  Programs take turns in the order in
which their replies arrive; work in the background starts as soon as the turn that left it is
over.  A reply of Slack may be held back until it is let go.
-/

namespace AlertRelay.Rehearsal

open Database

/-- A scripted reply of Slack: how long it takes, and whether it is held back. -/
structure SlackCue where
  reply : SlackReply
  cost : Double
  held : Bool

/-- What is scripted: replies of the database and of Slack in their order, and statements that
fail whatever is scripted, by their text. -/
structure Script where
  rows : List (Except Value (List Row))
  failing : Assoc Value
  slack : List SlackCue

/-- Statements that steer transactions; no reply is scripted for them. -/
def steering : List String := ["BEGIN", "COMMIT", "ROLLBACK"]

/-- The name under which the attempt to connect may fail. -/
def connectName : String := "connect"

/-- What Slack answers when nothing is scripted: lists without items. -/
def emptyAnswer : Value :=
  .ofFields [("ok", .bool true), ("channels", .ofList []), ("members", .ofList [])]

namespace Script

/-- The reply to a statement. -/
def takeRows (s : Script) (q : Query) : Except Value (List Row) × Script :=
  match s.failing.get? q.text with
  | some thrown => (.error thrown, s)
  | none =>
    if steering.contains q.text then (.ok [], s)
    else
      match s.rows with
      | [] => (.ok [], s)
      | reply :: rest => (reply, { s with rows := rest })

/-- The reply to a call. -/
def takeSlack (s : Script) : SlackCue × Script :=
  match s.slack with
  | [] => (⟨.answered emptyAnswer, 0, false⟩, s)
  | cue :: rest => (cue, { s with slack := rest })

/-- What comes of the attempt to connect. -/
def connection (s : Script) : Except Value Unit :=
  match s.failing.get? connectName with
  | some thrown => .error thrown
  | none => .ok ()

end Script

/-- On whose behalf a program runs: a caller, the look-up of a job, what follows when a look-up
has ended, or an alert. -/
inductive Owner where
  | caller
  | lookup (jobId : String)
  | sequel
  | alert
deriving DecidableEq, Repr

/-- A program under way.  Only that of the caller has a result. -/
structure Task (α : Type) where
  owner : Owner
  program : Program (Option α)

/-- A task whose reply is held back. -/
structure Held (α : Type) where
  owner : Owner
  next : SlackReply → Program (Option α)
  cue : SlackCue

/-- A task that waits for look-ups to end. -/
structure Awaiting (α : Type) where
  owner : Owner
  lookups : List String
  next : Program (Option α)

/-- A rehearsal under way: the tasks that can go on, in their order, those that wait for a
held reply or for look-ups to end, and the caller's result. -/
structure Stage (α : Type) where
  config : Config
  world : World
  script : Script
  ready : List (Task α)
  held : List (Held α)
  awaiting : List (Awaiting α)
  result : Option (Except Failure α)

/-- On whose behalf work in the background runs. -/
def Owner.ofWork : Background → Owner
  | .lookup jobId .. => .lookup jobId
  | .alert .. => .alert

namespace Stage

variable {α : Type}

/-- The task for work in the background. -/
def taskOf (config : Config) (work : Background) : Task α :=
  ⟨.ofWork work, (work.program config).bind fun _ => .done none⟩

/-- A stage on which nothing has happened yet. -/
def start (config : Config) (clock : Double) : Stage α :=
  ⟨config, ⟨clock, idText, 0, .empty, [], []⟩, ⟨[], [], []⟩, [], [], [], none⟩

/-- Lets a task go on after all others. -/
def enqueue (s : Stage α) (owner : Owner) (p : Program (Option α)) : Stage α :=
  { s with ready := s.ready ++ [⟨owner, p⟩] }

/-- Notes an event. -/
def note (s : Stage α) (e : Event) : Stage α := { s with world := s.world.note e }

/-- Lets time pass. -/
def pass (s : Stage α) (ms : Double) : Stage α :=
  { s with world := { s.world with clock := s.world.clock.add ms } }

/-- Whether the look-up of a job has not ended yet. -/
def looksUp (s : Stage α) (jobId : String) : Bool :=
  s.ready.any (·.owner == .lookup jobId) || s.held.any (·.owner == .lookup jobId)

/-- Answers a call to Slack.  A client that cannot be made makes no call. -/
def answerCall (s : Stage α) (owner : Owner) (call : SlackCall)
    (next : SlackReply → Program (Option α)) : Stage α :=
  let (cue, script) := s.script.takeSlack
  let s := { s with script }
  match cue.reply with
  | .noClient _ => s.enqueue owner (next cue.reply)
  | _ =>
    let s := s.note (.called call)
    if cue.held then { s with held := s.held ++ [⟨owner, next, cue⟩] }
    else (s.pass cue.cost).enqueue owner (next cue.reply)

/-- What comes of a task that ended: a caller has its result, and the end of a look-up is noted
in a turn of its own. -/
def finish (s : Stage α) (owner : Owner) (r : Except Failure (Option α)) : Stage α :=
  match owner, r with
  | .caller, .ok (some a) => { s with result := some (.ok a) }
  | .caller, .error f => { s with result := some (.error f) }
  | .lookup jobId, _ => s.enqueue .sequel ((Channel.untrack jobId).bind fun _ => .done none)
  | _, _ => s

/-- Answers what a task waits for at the end of its turn. -/
def settle (s : Stage α) (owner : Owner) : Stand (Option α) → Stage α
  | .ended r => s.finish owner r
  | .calling call next => s.answerCall owner call next
  | .querying q next =>
    let (reply, script) := s.script.takeRows q
    (({ s with script }).note (.queried q)).enqueue owner (next reply)
  | .connecting next => (s.note .connected).enqueue owner (next s.script.connection)
  | .awaiting lookups next => { s with awaiting := s.awaiting ++ [⟨owner, lookups, next⟩] }
  | .givingWay next => s.enqueue owner next

/-- Starts the work that a turn left for the background. -/
def startWork (s : Stage α) : Stage α :=
  let tasks := s.world.work.reverse.map (taskOf s.config)
  { s with world := { s.world with work := [] }, ready := tasks ++ s.ready }

/-- Lets tasks go on that wait for look-ups, if all these have ended. -/
def wake (s : Stage α) : Stage α :=
  let (woken, awaiting) := s.awaiting.partition fun a => a.lookups.all fun id => !s.looksUp id
  { s with awaiting, ready := s.ready ++ woken.map fun a => ⟨a.owner, a.next⟩ }

/-- One turn of the task whose turn it is. -/
def step (s : Stage α) : Stage α :=
  match s.ready with
  | [] => s
  | task :: rest =>
    let (stand, world) := task.program.turn s.world
    ((({ s with world, ready := rest }).settle task.owner stand).startWork).wake

/-- Lets tasks take turns as long as one can go on, for at most so many turns. -/
def run : Nat → Stage α → Stage α
  | 0, s => s
  | turns + 1, s => if s.ready.isEmpty then s else run turns s.step

/-- Lets all held replies go, in the order in which they were taken. -/
def letGo (s : Stage α) : Stage α :=
  s.held.foldl (fun s h => (s.pass h.cue.cost).enqueue h.owner (h.next h.cue.reply))
    { s with held := [] }

/-- Starts a program of a caller. -/
def call (s : Stage α) (p : Program α) : Stage α :=
  ({ s with result := none }).enqueue .caller (p.bind fun a => .done (some a))

/-- Takes the events noted so far, from the first to the last. -/
def takeEvents (s : Stage α) : List Event × Stage α :=
  (s.world.events.reverse, { s with world := { s.world with events := [] } })

end Stage

end AlertRelay.Rehearsal
