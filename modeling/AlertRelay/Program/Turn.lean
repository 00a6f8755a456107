import AlertRelay.Channel.Listing

/-!
Turns of programs.

A turn carries a program on until it ends or has to wait: for Slack, for the database, or for
look-ups in the background.  Within a turn nothing else happens; the clock stands still.
-/

namespace AlertRelay

/-- What a program does to its surroundings. -/
inductive Event where
  | openedPool (url : String)
  | closedPool
  | connected
  | queried (q : Database.Query)
  | released (reason : Option Value)
  | called (call : SlackCall)
  | logged (level : Log.Level) (line : String)
  | noticed (level message context : String)

/-- What a turn can change: the clock is read, identities are handed out by their numbers,
things are remembered, and work is left for the background.  Events and work are listed from the
last to the first. -/
structure World where
  clock : Double
  ids : Nat → String
  lastId : Nat
  memory : Memory
  events : List Event
  work : List Background

/-- The identity with a number. -/
def idText (n : Nat) : String :=
  "00000000-0000-4000-8000-" ++ Instant.padded 12 n

namespace World

/-- Notes an event. -/
def note (w : World) (e : Event) : World := { w with events := e :: w.events }

/-- Notes a record of the log. -/
def noteLog (w : World) (level : Log.Level) (message : String) (context : List Value) : World :=
  w.note (.logged level
    (Log.line ((Instant.ofDouble? w.clock).getD 0) level message context))

end World

/-- Where a program stands at the end of a turn: it ended, or waits for something.  A program that
awaits look-ups goes on when all of them have ended. -/
inductive Stand (α : Type) where
  | ended (r : Except Failure α)
  | calling (call : SlackCall) (next : SlackReply → Program α)
  | querying (q : Database.Query) (next : Except Value (List Database.Row) → Program α)
  | connecting (next : Except Value Unit → Program α)
  | awaiting (lookups : List String) (next : Program α)
  | givingWay (next : Program α)

namespace Program

variable {α : Type}

/-- The stages from a call to the search that it was made for: the call, the page that is read
from its answer, and the list that the page belongs to. -/
def searchStages : Nat := 3

/-- How a search goes on when its call comes back. -/
def afterCall (s : Channel.Search) (next : Except Failure Channel.Outcome → Program α)
    (reply : SlackReply) : Program α :=
  (giveWay searchStages).bind fun _ =>
    .ask .now fun time => .ask (.search (s.resume reply time)) next

/-- Carries a program on to the end of its turn.  A program that drains awaits the look-ups that
are in flight, and then looks again. -/
def turn : Program α → World → Stand α × World
  | .done a, w => (.ended (.ok a), w)
  | .fail f, w => (.ended (.error f), w)
  | .access change next, w => (next w.memory).turn { w with memory := change w.memory }
  | .ask .now next, w => (next w.clock).turn w
  | .ask .newId next, w => (next (w.ids (w.lastId + 1))).turn { w with lastId := w.lastId + 1 }
  | .ask (.log level message context) next, w => (next ()).turn (w.noteLog level message context)
  | .ask (.notice level message context) next, w =>
    (next ()).turn (w.note (.noticed level message context))
  | .ask (.openPool url) next, w => (next ()).turn (w.note (.openedPool url))
  | .ask .closePool next, w => (next ()).turn (w.note .closedPool)
  | .ask (.query q) next, w => (.querying q next, w)
  | .ask .connect next, w => (.connecting next, w)
  | .ask (.clientQuery q) next, w => (.querying q next, w)
  | .ask (.release reason) next, w => (next ()).turn (w.note (.released reason))
  | .ask (.slack call) next, w => (.calling call next, w)
  | .ask (.search (.ended o)) next, w => (next (.ok o)).turn w
  | .ask (.search (.failed f)) next, w => (next (.error f)).turn w
  | .ask (.search (.gaveUp o why)) next, w =>
    (next (.ok o)).turn (w.noteLog .warn why.event [why.context])
  | .ask (.search (.more s)) next, w => (.calling s.call (afterCall s next), w)
  | .ask (.spawn work) next, w => (next ()).turn { w with work := work :: w.work }
  | .ask .drain next, w =>
    if w.memory.inFlight.isEmpty then (next ()).turn w
    else (.awaiting w.memory.inFlight (.ask .drain next), w)
  | .ask .giveWay next, w => (.givingWay (next ()), w)

end Program

end AlertRelay
