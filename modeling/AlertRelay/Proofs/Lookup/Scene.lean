import AlertRelay.Background
import AlertRelay.Proofs.Program.Turns

/-!
Scenes of look-ups.

A scene holds all that goes on around the look-ups of one server: the callers, each with what he
wants and where his program stands, the look-ups that were deferred, each with where it stands and
what it was given, and the notes that are still to be made that a look-up is not in flight any
more.  A move lets somebody come, lets time pass, gives a program what it waits for, or makes a
note; moves may come in any order.
-/

namespace AlertRelay.Channel

/-- What a caller may want. -/
inductive Demand where
  | lookup (organizationId integrationId name : String)
  | poll (jobId : String)
  | drain

/-- What a caller is answered. -/
inductive Answer where
  | looked (answer : LookupAnswer)
  | job (job : Job)
  | drained
deriving DecidableEq

/-- The program for a demand. -/
def Demand.program (config : Config) : Demand → Program Answer
  | .lookup organizationId integrationId name => do
    return .looked (← Channel.lookup config organizationId integrationId name)
  | .poll jobId => do return .job (← getJob jobId)
  | .drain => do
    Channel.drain
    return .drained

/-- A caller: what he wants, and where his program stands. -/
structure Caller where
  demand : Demand
  stand : Stand Answer

/-- A look-up that goes on in the background: the caller it was deferred for, by his place, its
job, what it looks for, where it stands, and what it was given, from the first to the last. -/
structure Deferred where
  caller : Nat
  jobId : String
  organizationId : String
  workspace : Integration.Workspace
  name : String
  stand : Stand Unit
  given : List Given

/-- The look-up that starts with work for the background; its first turn is still to come. -/
def Deferred.ofWork? (config : Config) (caller : Nat) (work : Background) : Option Deferred :=
  match work with
  | .lookup jobId organizationId workspace name =>
    some ⟨caller, jobId, organizationId, workspace, name, .givingWay (work.program config), []⟩
  | .alert .. => none

/-- A look-up after a turn in which it was given something. -/
def Deferred.next (l : Deferred) (g : Given) (st : Stand Unit) : Deferred :=
  { l with stand := st, given := l.given ++ [g] }

/-- All that goes on around the look-ups of a server. -/
structure Scene where
  world : World
  callers : List Caller
  deferred : List Deferred
  callbacks : List String

/-- What may happen next. -/
inductive Move where
  | demand (d : Demand)
  | clock (time : Double)
  | caller (i : Nat) (a : Arrival)
  | deferred (i : Nat) (a : Arrival)
  | callback (i : Nat)

/-- A list with an element at a place: in place of the one there, or behind the last one. -/
def place {α : Type} (i : Nat) (x : α) (l : List α) : List α :=
  l.take i ++ x :: l.drop (i + 1)

namespace Scene

/-- A scene in which nothing has happened yet. -/
def start (ids : Nat → String) (clock : Double) : Scene :=
  ⟨⟨clock, ids, 0, .empty, [], []⟩, [], [], []⟩

/-- Whether the look-ups of all these jobs have ended. -/
def settled (s : Scene) (jobIds : List String) : Bool :=
  s.deferred.all fun l => l.stand.result?.isSome || !jobIds.contains l.jobId

/-- How a program goes on with an arrival in a scene: whoever awaits look-ups goes on when all of
them have ended. -/
def goOn? {α : Type} (s : Scene) (st : Stand α) (a : Arrival) : Option (Program α) :=
  match st with
  | .awaiting jobIds _ => if s.settled jobIds then st.resume? a else none
  | _ => st.resume? a

/-- A turn of a program.  The look-ups that it defers are for the caller at a place. -/
def turn {α : Type} (config : Config) (s : Scene) (caller : Nat) (p : Program α) :
    Stand α × Scene :=
  let t := p.turn s.world
  (t.1, { s with
    world := { t.2 with work := [] }
    deferred := s.deferred ++ t.2.work.reverse.filterMap (Deferred.ofWork? config caller) })

/-- A turn of the program of the caller at a place. -/
def turnOfCaller (config : Config) (s : Scene) (i : Nat) (d : Demand) (p : Program Answer) :
    Scene :=
  let t := s.turn config i p
  { t.2 with callers := place i ⟨d, t.1⟩ s.callers }

/-- A turn of the look-up at a place.  When it ends, it is still to be noted that it is not in
flight any more. -/
def turnOfDeferred (config : Config) (s : Scene) (i : Nat) (l : Deferred) (a : Arrival)
    (p : Program Unit) : Scene :=
  let t := s.turn config l.caller p
  { t.2 with
    deferred := place i (l.next ⟨a, s.world.clock⟩ t.1) t.2.deferred
    callbacks := if t.1.result?.isSome then s.callbacks ++ [l.jobId] else s.callbacks }

/-- The scene after a move.  What cannot happen changes nothing. -/
def step (config : Config) (s : Scene) : Move → Scene
  | .demand d => s.turnOfCaller config s.callers.length d (d.program config)
  | .clock time => { s with world := { s.world with clock := time } }
  | .caller i a =>
    match s.callers[i]? with
    | none => s
    | some c => (s.goOn? c.stand a).elim s (s.turnOfCaller config i c.demand)
  | .deferred i a =>
    match s.deferred[i]? with
    | none => s
    | some l => (s.goOn? l.stand a).elim s (s.turnOfDeferred config i l a)
  | .callback i =>
    match s.callbacks[i]? with
    | none => s
    | some jobId =>
      { s with
        world := ((untrack jobId).turn s.world).2
        callbacks := s.callbacks.eraseIdx i }

/-- The job that is stored under an identity, expired or not. -/
def job? (s : Scene) (jobId : String) : Option Job :=
  s.world.memory.jobs.entry? jobId |>.map (·.value)

/-- The scene after some moves. -/
def play (config : Config) (s : Scene) (moves : List Move) : Scene :=
  moves.foldl (step config) s

end Scene

/-- Settings with little time for a caller and more for the background. -/
def hurried : Config := ⟨"", "", 10, 1000, 10, 5000, []⟩

/-- Identities of more and more letters. -/
def letters (n : Nat) : String :=
  String.ofList (List.replicate n 'a')

theorem letters_injective : Function.Injective letters := by
  intro n m h
  have hlength := congrArg String.length h
  simpa only [letters, String.length_ofList, List.length_replicate] using hlength

/-- The reply with the last page of a list of channels. -/
def lastPage (channels : List Value) : SlackReply :=
  .answered (.ofFields [("ok", .bool true), ("channels", .ofList channels)])

/-- A look-up is deferred since Slack is late.  Its job is polled, a drain waits for it, the
look-up ends, and its job is polled twice more, the last time long afterwards. -/
def lateMoves : List Move :=
  [.demand (.lookup "o1" "i1" "#general"),
    .caller 0 (.rows (.ok [.ofFields [("id", .text "i1"), ("external_id", .text "T1"),
      ("name", .text "Acme"), ("status", .text "visible"),
      ("metadata", .ofFields [("access_token", .text "t")])]])),
    .clock 1000, .caller 0 (.reply (lastPage []))] ++ List.replicate 6 (.caller 0 .turn) ++
  [.demand (.poll "a"), .demand .drain, .deferred 0 .turn,
    .deferred 0 (.reply (lastPage [.ofFields [("id", .text "C1"), ("name", .text "general")]]))] ++
  List.replicate 6 (.deferred 0 .turn) ++
  [.callback 0, .caller 2 .settled, .demand (.poll "a"), .clock 6000, .demand (.poll "a")]

example :
    ((Scene.start letters 0).play hurried lateMoves).callers.map
        (·.stand.result?.bind (·.toOption)) =
      [some (.looked (.pending "a")), some (.job ⟨"a", "#general", .pending⟩), some .drained,
        some (.job ⟨"a", "#general", .settled (.success .channel "C1")⟩), none] := by
  decide +kernel

end AlertRelay.Channel
