import AlertRelay.Proofs.Lookup.Scene
import AlertRelay.Proofs.Tokens.Server

/-!
Runs of the server that differ in tokens.

A scene holds all that goes on in one server: where the programs of the callers stand, where the
work in the background stands, and the look-ups of which it is still to be noted that they are not
in flight any more.  Callers may come with any errand at any time, and programs go on in any order.
What the database answers is given for each moment of a run, whatever it is asked.  If two
databases answer alike, all that is shown of their runs is the same (`Scene.shown_play_of_alike`).
-/

namespace AlertRelay

open Channel (place)

namespace Server

/-- What may be asked of the server. -/
inductive Errand where
  | request (r : Web.Request)
  | lookup (organizationId integrationId name : String)
  | poll (jobId : String)
  | identity (userId organizationId integrationId : String)
  | send (action : Attachment.AlertAction) (incident : Attachment.Incident)
      (metricValue : Option Double)
  | dispatch (action : Attachment.AlertAction) (incident : Attachment.Incident)
      (metricValue : Option Double)

/-- What comes of an errand that does not fail. -/
inductive Report where
  | response (r : Web.Response)
  | looked (answer : Channel.LookupAnswer)
  | job (job : Channel.Job)
  | context (summary : Value)
  | delivery (d : Alert.Delivery)
  | dispatched

/-- The program for an errand. -/
def Errand.program (config : Config) : Errand → Program Report
  | .request r => do return .response (← respond config r)
  | .lookup organizationId integrationId name => do
    return .looked (← Channel.lookup config organizationId integrationId name)
  | .poll jobId => do return .job (← Channel.getJob jobId)
  | .identity userId organizationId integrationId => do
    return .context
      (← Integration.findIdentityContext config userId organizationId integrationId).summary
  | .send action incident metricValue => do
    return .delivery (← Alert.send config action incident metricValue)
  | .dispatch action incident metricValue => do
    Alert.dispatch action incident metricValue
    return .dispatched

/-- What the database answers at some moment. -/
abbrev Answers := Database.Query → Except Value (List Database.Row)

/-- What a program that waits may be given: an answer of the database is the one of the moment. -/
inductive Prompt where
  | reply (r : SlackReply)
  | rows
  | connection (answer : Except Value Unit)
  | turn

/-- Work in the background, and where it stands. -/
structure Task where
  work : Background
  stand : Stand Unit

/-- The task that starts with work for the background; its first turn is still to come. -/
def Task.ofWork (config : Config) (work : Background) : Task :=
  ⟨work, .givingWay (work.program config)⟩

/-- All that goes on in a server. -/
structure Scene where
  world : World
  callers : List (Stand Report)
  tasks : List Task
  callbacks : List String

/-- What may happen next. -/
inductive Move where
  | errand (e : Errand)
  | clock (time : Double)
  | caller (i : Nat) (p : Prompt)
  | task (i : Nat) (p : Prompt)
  | callback (i : Nat)

end Server

/-- What a program that waits has asked of Slack or of the database. -/
def Stand.event? {α : Type} : Stand α → Option Event
  | .calling call _ => some (.called call)
  | .querying q _ => some (.queried q)
  | .connecting _ => some .connected
  | _ => none

/-- How a program goes on with what it is given, if that is what it waits for. -/
def Stand.goOn? {α : Type} (answers : Server.Answers) : Stand α → Server.Prompt → Option (Program α)
  | .calling _ next, .reply r => some (next r)
  | .querying q next, .rows => some (next (answers q))
  | .connecting next, .connection answer => some (next answer)
  | .givingWay next, .turn => some next
  | _, _ => none

namespace Server

namespace Scene

/-- A scene in which nobody has come yet. -/
def start (w : World) : Scene :=
  ⟨w, [], [], []⟩

/-- A turn of a program.  What it waits for is noted, and the work that it leaves starts. -/
def turn {α : Type} (config : Config) (s : Scene) (p : Program α) : Stand α × Scene :=
  let t := p.turn s.world
  (t.1, { s with
    world := { t.2 with events := t.1.event?.toList ++ t.2.events, work := [] }
    tasks := s.tasks ++ t.2.work.reverse.map (Task.ofWork config) })

/-- A turn of the program of the caller at a place. -/
def turnOfCaller (config : Config) (s : Scene) (i : Nat) (p : Program Report) : Scene :=
  let t := s.turn config p
  { t.2 with callers := place i t.1 s.callers }

/-- The look-up that has ended, with work that stands somewhere. -/
def endedLookup? : Background → Stand Unit → Option String
  | .lookup jobId _ _ _, .ended _ => some jobId
  | _, _ => none

/-- A turn of the task at a place.  When a look-up ends, it is still to be noted that it is not in
flight any more. -/
def turnOfTask (config : Config) (s : Scene) (i : Nat) (work : Background) (p : Program Unit) :
    Scene :=
  let t := s.turn config p
  { t.2 with
    tasks := place i ⟨work, t.1⟩ t.2.tasks
    callbacks := s.callbacks ++ (endedLookup? work t.1).toList }

/-- The scene after a move.  What cannot happen changes nothing. -/
def step (config : Config) (answers : Answers) (s : Scene) : Move → Scene
  | .errand e => s.turnOfCaller config s.callers.length (e.program config)
  | .clock time => { s with world := { s.world with clock := time } }
  | .caller i p =>
    s.callers[i]?.elim s fun st => (st.goOn? answers p).elim s (s.turnOfCaller config i)
  | .task i p =>
    s.tasks[i]?.elim s fun t => (t.stand.goOn? answers p).elim s (s.turnOfTask config i t.work)
  | .callback i =>
    match s.callbacks[i]? with
    | none => s
    | some jobId =>
      { s with
        world := ((Channel.untrack jobId).turn s.world).2
        callbacks := s.callbacks.eraseIdx i }

/-- The scene after some moves, with what the database answers at the moment of each. -/
def play (config : Config) (answers : Nat → Answers) (s : Scene) : List Move → Scene
  | [] => s
  | m :: rest => play config (fun n => answers (n + 1)) (s.step config (answers 0) m) rest

end Scene

/-- All that is shown of a run: what came of the callers' errands and of the work in the background,
what the server remembers, and what it did, down to each statement and each line of the log.  Of a
call to Slack only the token is hidden. -/
structure Shown where
  reports : List (Option (Except Failure Report))
  endings : List (Option (Except Failure Unit))
  callbacks : List String
  clock : Double
  ids : Nat → String
  lastId : Nat
  memory : Memory
  events : List Event

def Scene.shown (s : Scene) : Shown where
  reports := s.callers.map Stand.result?
  endings := s.tasks.map (·.stand.result?)
  callbacks := s.callbacks
  clock := s.world.clock
  ids := s.world.ids
  lastId := s.world.lastId
  memory := s.world.memory
  events := s.world.events.map Event.tokenless

instance (q : Database.Query) : Decidable q.ForWorkspace :=
  inferInstanceAs (Decidable (q.text ∈ Integration.workspaceTexts))

/-- Databases that answer alike: the same, or rows of workspaces that are the same but for
tokens. -/
def Answers.Alike (answers answers' : Answers) : Prop :=
  ∀ q : Database.Query, q.Answered (answers q) (answers' q)

/-- An errand does the same, whatever the tokens. -/
theorem Errand.program_alike (config : Config) (e : Errand) :
    (e.program config).Alike Eq (e.program config) := by
  cases e with
  | request r =>
      simp only [program]
      refine Program.Alike.bind (respond_alike config r) fun response response' h => ?_
      exact h ▸ .done rfl
  | lookup organizationId integrationId name =>
      refine Program.Alike.bind (Channel.lookup_alike config organizationId integrationId name)
        fun answer answer' h => ?_
      exact h ▸ .done rfl
  | poll jobId => exact .after (Channel.getJob_unconcerned jobId) fun job => .done rfl
  | identity userId organizationId integrationId =>
      refine Program.Alike.bind (Integration.findIdentityContext_alike config userId
        organizationId integrationId) fun c c' h => .done ?_
      exact congrArg Report.context h
  | send action incident metricValue =>
      refine Program.Alike.bind (Alert.send_alike config action incident metricValue)
        fun d d' h => ?_
      exact h ▸ .done rfl
  | dispatch action incident metricValue => exact .spawn rfl (.done rfl)

end Server

namespace Stand.Alike

variable {α β : Type} {R : α → β → Prop} {st : Stand α} {st' : Stand β}

theorem event?_eq (h : st.Alike R st') :
    st.event?.map Event.tokenless = st'.event?.map Event.tokenless := by
  cases h with
  | calling hc _ => exact congrArg (fun c => some (Event.called c)) hc
  | _ => rfl

theorem goOn?_alike (h : st.Alike R st') {answers answers' : Server.Answers}
    (hanswers : answers.Alike answers') (p : Server.Prompt) :
    Option.Rel (Program.Alike R) (st.goOn? answers p) (st'.goOn? answers' p) := by
  cases h with
  | ended _ => cases p <;> exact .none
  | calling _ h =>
      cases p with
      | reply r => exact .some (h r)
      | _ => exact .none
  | @querying q _ _ h =>
      cases p with
      | rows => exact .some (h _ _ (hanswers q))
      | _ => exact .none
  | connecting h =>
      cases p with
      | connection answer => exact .some (h answer)
      | _ => exact .none
  | awaiting _ => cases p <;> exact .none
  | givingWay h =>
      cases p with
      | turn => exact .some h
      | _ => exact .none

theorem result?_eq {st st' : Stand α} (h : st.Alike Eq st') : st.result? = st'.result? := by
  cases h with
  | ended h => exact congrArg some h.eq
  | _ => rfl

end Stand.Alike

namespace Server

/-- Tasks that are the same but for tokens. -/
structure Task.Alike (t t' : Task) : Prop where
  work : t.work.tokenless = t'.work.tokenless
  stand : t.stand.Alike Eq t'.stand

theorem Task.ofWork_alike (config : Config) {b b' : Background} (h : b.tokenless = b'.tokenless) :
    (Task.ofWork config b).Alike (Task.ofWork config b') :=
  ⟨h, .givingWay (Background.program_alike config h)⟩

section Places

variable {α β : Type} {R : α → β → Prop} {l : List α} {l' : List β}

theorem forall₂_place (h : List.Forall₂ R l l') (i : Nat) {x : α} {y : β} (hxy : R x y) :
    List.Forall₂ R (place i x l) (place i y l') :=
  List.rel_append (List.forall₂_take i h) (.cons hxy (List.forall₂_drop (i + 1) h))

theorem rel_getElem? (h : List.Forall₂ R l l') (i : Nat) : Option.Rel R l[i]? l'[i]? := by
  induction h generalizing i with
  | nil => exact .none
  | cons hxy _ ih =>
      cases i with
      | zero => exact .some hxy
      | succ i => exact ih i

theorem rel_elim {γ δ : Type} {S : γ → δ → Prop} {o : Option α} {o' : Option β}
    (h : Option.Rel R o o') {x : γ} {y : δ} (hxy : S x y) {f : α → γ} {g : β → δ}
    (hfg : ∀ a b, R a b → S (f a) (g b)) : S (o.elim x f) (o'.elim y g) := by
  cases h with
  | none => exact hxy
  | some h => exact hfg _ _ h

end Places

/-- Scenes that are the same but for tokens. -/
structure Scene.Alike (s s' : Scene) : Prop where
  world : s.world.Alike s'.world
  callers : List.Forall₂ (Stand.Alike Eq) s.callers s'.callers
  tasks : List.Forall₂ Task.Alike s.tasks s'.tasks
  callbacks : s.callbacks = s'.callbacks

namespace Scene.Alike

variable {s s' : Scene}

/-- What scenes that are the same but for tokens show is the same. -/
theorem shown_eq (h : s.Alike s') : s.shown = s'.shown := by
  have hreports : s.callers.map Stand.result? = s'.callers.map Stand.result? :=
    List.forall₂_eq_eq_eq ▸ List.rel_map (fun _ _ h => h.result?_eq) h.callers
  have hendings : s.tasks.map (·.stand.result?) = s'.tasks.map (·.stand.result?) :=
    List.forall₂_eq_eq_eq ▸ List.rel_map (fun _ _ h => h.stand.result?_eq) h.tasks
  simp only [shown, hreports, hendings, h.callbacks, h.world.clock, h.world.ids, h.world.lastId,
    h.world.memory, h.world.events]

theorem turn {α : Type} (h : s.Alike s') (config : Config) {p q : Program α} (hp : p.Alike Eq q) :
    (s.turn config p).1.Alike Eq (s'.turn config q).1 ∧
      (s.turn config p).2.Alike (s'.turn config q).2 := by
  obtain ⟨hstand, hworld⟩ := hp.turn h.world
  refine ⟨hstand, ?_, h.callers, ?_, h.callbacks⟩
  · refine ⟨hworld.clock, hworld.ids, hworld.lastId, hworld.memory, ?_, .nil⟩
    simp only [Scene.turn, List.map_append, ← Option.toList_map, hstand.event?_eq, hworld.events]
  · have hstarted : List.Forall₂ Task.Alike
        ((p.turn s.world).2.work.reverse.map (Task.ofWork config))
        ((q.turn s'.world).2.work.reverse.map (Task.ofWork config)) := by
      rw [List.forall₂_map_left_iff, List.forall₂_map_right_iff]
      exact (List.rel_reverse hworld.work).imp fun _ _ => Task.ofWork_alike config
    exact List.rel_append h.tasks hstarted

theorem turnOfCaller (h : s.Alike s') (config : Config) (i : Nat) {p q : Program Report}
    (hp : p.Alike Eq q) : (s.turnOfCaller config i p).Alike (s'.turnOfCaller config i q) := by
  obtain ⟨hstand, hscene⟩ := h.turn config hp
  exact ⟨hscene.world, forall₂_place h.callers i hstand, hscene.tasks, hscene.callbacks⟩

theorem endedLookup?_eq {b b' : Background} (hwork : b.tokenless = b'.tokenless)
    {st st' : Stand Unit} (hstand : st.Alike Eq st') : endedLookup? b st = endedLookup? b' st' := by
  cases b with
  | lookup jobId organizationId workspace name =>
      cases b' with
      | lookup jobId' organizationId' workspace' name' =>
          cases (Background.lookup.inj hwork).1
          cases hstand <;> rfl
      | alert action incident metricValue => cases hwork
  | alert action incident metricValue =>
      cases b' with
      | lookup jobId' organizationId' workspace' name' => cases hwork
      | alert action' incident' metricValue' => rfl

theorem turnOfTask (h : s.Alike s') (config : Config) (i : Nat) {b b' : Background}
    (hwork : b.tokenless = b'.tokenless) {p q : Program Unit} (hp : p.Alike Eq q) :
    (s.turnOfTask config i b p).Alike (s'.turnOfTask config i b' q) := by
  obtain ⟨hstand, hscene⟩ := h.turn config hp
  refine ⟨hscene.world, hscene.callers, forall₂_place hscene.tasks i ⟨hwork, hstand⟩, ?_⟩
  simp only [Scene.turnOfTask, h.callbacks, endedLookup?_eq hwork hstand]

/-- A move keeps scenes the same but for tokens. -/
theorem step (h : s.Alike s') (config : Config) {answers answers' : Answers}
    (hanswers : answers.Alike answers') (m : Move) :
    (s.step config answers m).Alike (s'.step config answers' m) := by
  cases m with
  | errand e =>
      simp only [Scene.step, h.callers.length_eq]
      exact h.turnOfCaller config _ (e.program_alike config)
  | clock time =>
      exact ⟨⟨rfl, h.world.ids, h.world.lastId, h.world.memory, h.world.events, h.world.work⟩,
        h.callers, h.tasks, h.callbacks⟩
  | caller i p =>
      refine rel_elim (rel_getElem? h.callers i) h fun st st' hstand => ?_
      refine rel_elim (hstand.goOn?_alike hanswers p) h fun _ _ hp => ?_
      exact h.turnOfCaller config i hp
  | task i p =>
      refine rel_elim (rel_getElem? h.tasks i) h fun t t' htask => ?_
      refine rel_elim (htask.stand.goOn?_alike hanswers p) h fun _ _ hp => ?_
      exact h.turnOfTask config i htask.work hp
  | callback i =>
      simp only [Scene.step, h.callbacks]
      split
      · exact h
      · next jobId _ =>
          have huntrack : (Channel.untrack jobId).Within .unconcerned :=
            ⟨trivial, fun _ => trivial⟩
          have hturn := (Program.Alike.refl huntrack fun _ => rfl).turn h.world
          exact ⟨hturn.2, h.callers, h.tasks, rfl⟩

/-- So do any moves, if the database answers alike at the moment of each. -/
theorem play (h : s.Alike s') (config : Config) {answers answers' : Nat → Answers}
    (hanswers : ∀ n, (answers n).Alike (answers' n)) (moves : List Move) :
    (s.play config answers moves).Alike (s'.play config answers' moves) := by
  induction moves generalizing s s' answers answers' with
  | nil => exact h
  | cons m rest ih =>
      have hstep := h.step config (hanswers 0) m
      exact ih hstep fun n => hanswers (n + 1)

end Scene.Alike

/-- Whatever is asked of the server, in whatever order, and whatever Slack and the database answer:
if workspaces are the same but for tokens, all that is shown is the same. -/
theorem Scene.shown_play_of_alike (config : Config) {answers answers' : Nat → Answers}
    (hanswers : ∀ n, (answers n).Alike (answers' n)) (w : World) (moves : List Move) :
    ((start w).play config answers moves).shown = ((start w).play config answers' moves).shown := by
  have hstart : (start w).Alike (start w) := ⟨.refl w, .nil, .nil, rfl⟩
  exact (hstart.play config hanswers moves).shown_eq

/-- What a workspace hands over that has a token and one for a user. -/
def handedOver (token userToken : String) : Value :=
  .ofFields ((Assoc.put "access_token" (.text token) []).put "user_access_token" (.text userToken))

/-- A database with one workspace. -/
def oneWorkspace (token userToken : String) : Answers := fun q =>
  let columns : Assoc Value :=
    [("id", .text "i1"), ("external_id", .text "T1"), ("name", .text "Acme"),
      ("status", .text "visible")]
  if q.ForWorkspace then .ok [.ofFields (columns.put "metadata" (handedOver token userToken))]
  else .ok [.ofFields columns]

/-- A look-up is deferred since Slack is late.  Meanwhile somebody asks about the workspace, and an
alert is posted to a channel that is not there.  The look-up ends, and its job is polled. -/
def lookupAndAlert : List Move :=
  List.flatten
    [[.errand (.lookup "o1" "i1" "#general"), .caller 0 .rows, .clock 1000,
        .caller 0 (.reply (Channel.lastPage []))],
      List.replicate 6 (.caller 0 .turn),
      [.errand (.identity "u1" "o1" "i1"), .caller 1 .rows, .caller 1 .rows, .caller 1 .rows,
        .errand (.send ⟨"i1", "C9", true⟩
          ⟨"7", 7, "o1", "acme", false, 0, "3", "Errors", "count()", 5, none⟩ none),
        .caller 2 .rows,
        .caller 2 (.reply (.answered (.ofFields
          [("ok", .bool false), ("error", .text "channel_not_found")]))),
        .caller 2 .turn, .caller 2 .turn, .task 0 .turn,
        .task 0 (.reply (Channel.lastPage
          [.ofFields [("id", .text "C1"), ("name", .text "general")]]))],
      List.replicate 6 (.task 0 .turn),
      [.callback 0, .errand (.poll "a")]]

/-- The tokens of the calls to Slack, from the last to the first. -/
def Scene.tokens (s : Scene) : List String :=
  s.world.events.filterMap fun e =>
    match e with
    | .called call => some call.token
    | _ => none

/-- The scene after that, with a database. -/
def busyScene (answers : Answers) : Scene :=
  (Scene.start ⟨0, Channel.letters, 0, .empty, [], []⟩).play Channel.hurried (fun _ => answers)
    lookupAndAlert

/-- Two workspaces with different tokens are shown alike, though each call has another token. -/
theorem shown_play_otherTokens :
    (oneWorkspace "xoxb-1" "xoxp-1").Alike (oneWorkspace "xoxb-2" "xoxp-2") ∧
      (busyScene (oneWorkspace "xoxb-1" "xoxp-1")).shown =
        (busyScene (oneWorkspace "xoxb-2" "xoxp-2")).shown ∧
      (busyScene (oneWorkspace "xoxb-1" "xoxp-1")).tokens = ["xoxb-1", "xoxb-1", "xoxb-1"] ∧
      (busyScene (oneWorkspace "xoxb-2" "xoxp-2")).tokens = ["xoxb-2", "xoxb-2", "xoxb-2"] := by
  have halike : (oneWorkspace "xoxb-1" "xoxp-1").Alike (oneWorkspace "xoxb-2" "xoxp-2") := by
    intro q
    unfold oneWorkspace
    split
    · next hworkspace =>
        have hmetadata : Integration.MetadataAlike (handedOver "xoxb-1" "xoxp-1")
            (handedOver "xoxb-2" "xoxp-2") :=
          ((Integration.MetadataAlike.refl _).put (by decide) (by decide) (by decide)).put
            (by decide) (by decide) (by decide)
        exact .inr ⟨hworkspace, .ok (.cons (Integration.row_alike_put _ hmetadata) .nil)⟩
    · exact .inl rfl
  refine ⟨halike, Scene.shown_play_of_alike Channel.hurried (fun _ => halike)
    ⟨0, Channel.letters, 0, .empty, [], []⟩ lookupAndAlert, ?_, ?_⟩
  · decide +kernel
  · decide +kernel

end Server

end AlertRelay
