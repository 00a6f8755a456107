import AlertRelay.Preference.Service
import AlertRelay.Program.Turn

/-!
Changes of preferences, one call after another.

A call is first brought to its `Deed`: a choice for a key, no choice for a key, or no choices of
a user.  The writes of the call are those of its deed (`Change.update_writes`,
`Change.removal_writes`), and the program of the call makes them all in one turn, or fails and
leaves the rows as they were (`Change.turn_program`).  All that is said of stores is said by
cases on deeds.
-/

namespace AlertRelay

/-- The surroundings with other preferences in memory. -/
def World.withPreferences (w : World) (s : Preference.MemoryStore) : World :=
  { w with memory := { w.memory with preferences := s } }

/-- A server that has just started, at the beginning of time. -/
def World.fresh : World := ⟨0, idText, 0, .empty, [], []⟩

/-- A configuration in which nothing is set. -/
def Config.blank : Config := ⟨"", "", 0, 0, 0, 0, []⟩

namespace Preference

/-- A call that changes preferences. -/
inductive Change where
  | set (provider : Provider) (topic : Topic) (choice : Choice) (c : Coordinates)
  | remove (provider : Provider) (topic : Topic) (c : Coordinates)
  | erase (user : String) (topics : Topics)
deriving DecidableEq, Repr

/-- What a call comes down to. -/
inductive Deed where
  | put (key : Key) (choice : Choice)
  | drop (key : Key)
  | erase (user : String) (topics : Topics)
deriving DecidableEq, Repr

/-- Coordinates that name the target and the scope of a key. -/
def Key.coordinates (k : Key) : Coordinates where
  user := if k.target.kind = .user then some k.target.id else none
  team := if k.target.kind = .team then some k.target.id else none
  project := if k.scope.kind = .project then some k.scope.id else none
  organization := if k.scope.kind = .organization then some k.scope.id else none

/-- The key of the option that stands for a preference with a key. -/
def Key.optionKey? (k : Key) : Option OptionKey :=
  k.coordinates.optionKey? (k.topic.optionKeyFor? k.coordinates.project.isSome)

/-- The option that stands for a stored preference: under the key of its scope, with the value
of its choice inside or outside of a project. -/
def SettingRow.option? (row : SettingRow) : Option OptionRow :=
  let kept := row.key.topic.option? row.choice row.key.coordinates.project.isSome
  match kept, row.key.coordinates.optionKey? (kept.map (·.1)) with
  | some (_, value), some key => some ⟨key, value⟩
  | _, _ => none

namespace Coordinates

/-- Coordinates that name a key mean its target and scope, and the same option. -/
theorem of_key {c : Coordinates} {provider : Provider} {topic : Topic} {k : Key}
    (h : c.key provider topic = .ok k) :
    k.provider = provider ∧ k.topic = topic ∧
      k.coordinates.project.isSome = c.project.isSome ∧
      ∀ name, k.coordinates.optionKey? name = c.optionKey? name := by
  obtain ⟨user, team, project, organization⟩ := c
  cases user <;> cases team <;> cases project <;> cases organization <;>
    simp only [key, target, scope, reduceCtorEq, Except.ok.injEq] at h <;> subst h <;>
    exact ⟨rfl, rfl, rfl, fun _ => rfl⟩

end Coordinates

theorem keyOf_eq_ok_iff {provider : Provider} {topic : Topic} {c : Coordinates} {k : Key} :
    keyOf provider topic c = .ok k ↔ c.key provider topic = .ok k := by
  unfold keyOf
  cases c.key provider topic <;> simp

/-- A choice that can be made has the option key of its topic. -/
theorem Topic.option?_map_fst {t : Topic} {choice : Choice} (h : t.allows choice = true)
    (inProject : Bool) :
    (t.option? choice inProject).map (·.1) = t.optionKeyFor? inProject := by
  obtain ⟨text, htext⟩ := Option.isSome_iff_exists.mp h
  unfold option?
  rw [htext]
  cases t.optionKeyFor? inProject <;> rfl

namespace Deed

/-- The writes that do a deed. -/
def writes : Deed → List Write
  | .put key choice =>
    .putSetting key choice ::
      ((SettingRow.option? ⟨key, choice⟩).map fun o => .putOption o.key o.value).toList
  | .drop key => .dropSetting key :: (key.optionKey?.map Write.dropOption).toList
  | .erase user topics => erasure user topics

end Deed

theorem removal_eq (provider : Provider) (topic : Topic) (c : Coordinates) :
    removal provider topic c =
      (keyOf provider topic c).map fun k => (Deed.drop k).writes := by
  unfold removal
  cases hkey : keyOf provider topic c with
  | error refusal => rfl
  | ok k =>
      obtain ⟨_, rfl, hproject, hoption⟩ := Coordinates.of_key (keyOf_eq_ok_iff.mp hkey)
      simp only [Except.map, Deed.writes, Key.optionKey?, hproject, hoption]

theorem storing_eq {provider : Provider} {topic : Topic} {c : Coordinates} {k : Key}
    (hkey : keyOf provider topic c = .ok k) (choice : Choice) :
    storing k topic choice c = (Deed.put k choice).writes := by
  obtain ⟨_, rfl, hproject, hoption⟩ := Coordinates.of_key (keyOf_eq_ok_iff.mp hkey)
  simp only [storing, Deed.writes, SettingRow.option?, hproject, hoption]
  cases k.topic.option? choice c.project.isSome with
  | none => rfl
  | some kept =>
      simp only [Option.map_some]
      cases c.optionKey? (some kept.1) <;> rfl

namespace Change

/-- The program of a call to preferences that are kept in memory. -/
def program (config : Config) : Change → Program Unit
  | .set provider topic choice c => Store.memory.set config provider topic choice c
  | .remove provider topic c => Store.memory.remove config provider topic c
  | .erase user topics => Store.memory.erase config user topics

/-- What a call comes down to, or why it is refused. -/
def deed : Change → Except Refusal Deed
  | .set provider topic choice c =>
    if choice = .inherit then (keyOf provider topic c).map .drop
    else if topic.allows choice then (keyOf provider topic c).map (.put · choice)
    else .error (.notAllowed topic choice)
  | .remove provider topic c => (keyOf provider topic c).map .drop
  | .erase user topics => .ok (.erase user topics)

/-- What a call is that comes down to a deed. -/
theorem deed_cases {ch : Change} {d : Deed} (h : ch.deed = .ok d) :
    (∃ provider topic choice c k, ch = .set provider topic choice c ∧
      c.key provider topic = .ok k ∧ topic.allows choice = true ∧ d = .put k choice) ∨
    (∃ provider topic c k, (ch = .set provider topic .inherit c ∨ ch = .remove provider topic c) ∧
      c.key provider topic = .ok k ∧ d = .drop k) ∨
    (∃ user topics, ch = .erase user topics ∧ d = .erase user topics) := by
  have hmap : ∀ {provider topic c d} {f : Key → Deed}, (keyOf provider topic c).map f = .ok d →
      ∃ k, Coordinates.key c provider topic = .ok k ∧ d = f k := by
    intro provider topic c d f hd
    cases hkey : keyOf provider topic c with
    | error refusal => rw [hkey] at hd; cases hd
    | ok k =>
        rw [hkey] at hd
        exact ⟨k, keyOf_eq_ok_iff.mp hkey, (Except.ok.inj hd).symm⟩
  cases ch with
  | erase user topics => exact Or.inr (Or.inr ⟨user, topics, rfl, (Except.ok.inj h).symm⟩)
  | remove provider topic c =>
      obtain ⟨k, hkey, hd⟩ := hmap h
      exact Or.inr (Or.inl ⟨provider, topic, c, k, Or.inr rfl, hkey, hd⟩)
  | set provider topic choice c =>
      simp only [deed] at h
      split at h
      · rename_i hinherit
        subst hinherit
        obtain ⟨k, hkey, hd⟩ := hmap h
        exact Or.inr (Or.inl ⟨provider, topic, c, k, Or.inl rfl, hkey, hd⟩)
      · split at h
        · rename_i hallows
          obtain ⟨k, hkey, hd⟩ := hmap h
          exact Or.inl ⟨provider, topic, choice, c, k, rfl, hkey, hallows, hd⟩
        · cases h

/-- The result of a call, given the preferences before it. -/
def result (s : MemoryStore) (ch : Change) : Except Failure Unit :=
  match ch.deed with
  | .error refusal => .error (.refused refusal)
  | .ok d => (s.transact d.writes).1.mapError Failure.writeRefused

/-- The preferences after a call. -/
def after (s : MemoryStore) (ch : Change) : MemoryStore :=
  match ch.deed with
  | .error _ => s
  | .ok d => (s.transact d.writes).2

/-- The surroundings after a call. -/
def world (config : Config) (w : World) (ch : Change) : World :=
  ((ch.program config).turn w).2

/-- The surroundings after calls that are made one after the other. -/
def worldAfter (config : Config) (w : World) (changes : List Change) : World :=
  changes.foldl (world config) w

end Change

/-- All writes are made in one turn, and then the program goes on; if the store refuses one of
them, the program fails. -/
theorem turn_transact (config : Config) (writes : List Write) (next : Unit → Program Unit)
    (w : World) :
    ((Store.memory.transact config writes (.ok ())).bind next).turn w =
      match w.memory.preferences.transact writes with
      | (.ok (), s) => (next ()).turn (w.withPreferences s)
      | (.error name, s) => (.ended (.error (.writeRefused name)), w.withPreferences s) := by
  simp only [Store.transact, Store.transactInMemory, Program.update, Bind.bind, Program.bind,
    Program.turn]
  cases w.memory.preferences.transact writes with
  | mk outcome s => cases outcome <;> rfl

/-- The choice in force is looked up within the turn, and nothing changes. -/
theorem turn_choiceFor (config : Config) {provider : Provider} {topic : Topic}
    {c : Coordinates} {k : Key} (hkey : c.key provider topic = .ok k) (w : World) :
    (Store.memory.choiceFor config provider topic c).turn w =
      (.ended (.ok ((w.memory.preferences.choice? k).getD .inherit)), w) := by
  have hkeyOf : keyOf provider topic c = .ok k := keyOf_eq_ok_iff.mpr hkey
  simp only [Store.choiceFor, orRefused, hkeyOf]
  rfl

/-- The options of users about a topic are looked up within the turn. -/
theorem turn_choicesOfUsers (config : Config) (provider : Provider) {topic : Topic}
    {key : String} (hkey : topic.optionKeyFor? true = some key) (users : List String)
    (project : String) (w : World) :
    ((Store.memory.choicesOfUsers config provider topic users project).turn w).1 =
      .ended (.ok (.ofNames (w.memory.preferences.optionValues users project key))) := by
  simp only [Store.choicesOfUsers, hkey]
  rfl

/-- A record is written to the log within the turn, and nothing is forgotten. -/
theorem turn_log (level : Log.Level) (message : String) (fields : List (String × Value))
    (w : World) :
    ∃ w', (Program.log level message fields).turn w = (.ended (.ok ()), w') ∧
      w'.memory = w.memory :=
  ⟨w.noteLog level message [.ofFields fields], rfl, rfl⟩

namespace Change

/-- The writes of an update are those of its deed. -/
theorem update_writes (provider : Provider) (topic : Topic) (choice : Choice)
    (c : Coordinates) :
    (update provider topic choice c).map Update.writes =
      (deed (.set provider topic choice c)).map Deed.writes := by
  simp only [update, deed]
  split
  · rw [removal_eq]
    cases keyOf provider topic c <;> rfl
  · split
    · cases hkey : keyOf provider topic c with
      | error refusal => rfl
      | ok k =>
          simp only [Except.map, Update.writes]
          rw [storing_eq hkey]
    · rfl

/-- The writes of a removal are those of its deed. -/
theorem removal_writes (provider : Provider) (topic : Topic) (c : Coordinates) :
    removal provider topic c = (deed (.remove provider topic c)).map Deed.writes := by
  rw [removal_eq]
  simp only [deed]
  cases keyOf provider topic c <;> rfl

/-- What is known of a call that was carried out in one turn. -/
def CarriedOut (ch : Change) (w : World) (turn : Stand Unit × World) : Prop :=
  turn.1 = .ended (ch.result w.memory.preferences) ∧
    turn.2.memory.preferences = ch.after w.memory.preferences ∧
    ((∃ refusal, ch.deed = .error refusal) → turn.2 = w)

theorem carriedOut_refused {ch : Change} {refusal : Refusal} (hdeed : ch.deed = .error refusal)
    (w : World) :
    ch.CarriedOut w ((Program.fail (.refused refusal) : Program Unit).turn w) := by
  refine ⟨?_, ?_, fun _ => rfl⟩
  · simp only [result, hdeed, Program.turn]
  · simp only [after, hdeed, Program.turn]

/-- A program that makes the writes of a deed and may then write to the log. -/
theorem carriedOut_transact (config : Config) {ch : Change} {d : Deed}
    (hdeed : ch.deed = .ok d) (next : Unit → Program Unit)
    (hnext : ∀ w, ∃ w', (next ()).turn w = (.ended (.ok ()), w') ∧ w'.memory = w.memory)
    (w : World) :
    ch.CarriedOut w (((Store.memory.transact config d.writes (.ok ())).bind next).turn w) := by
  have hnot : ¬ ∃ refusal, ch.deed = .error refusal := by
    rintro ⟨refusal, hrefused⟩
    cases hdeed.symm.trans hrefused
  rw [turn_transact]
  simp only [CarriedOut, result, after, hdeed]
  cases w.memory.preferences.transact d.writes with
  | mk outcome s =>
      cases outcome with
      | error name => exact ⟨rfl, rfl, fun h => absurd h (hdeed ▸ hnot)⟩
      | ok _ =>
          obtain ⟨w', hturn, hmemory⟩ := hnext (w.withPreferences s)
          simp only [hturn, hmemory]
          exact ⟨rfl, rfl, fun h => absurd h (hdeed ▸ hnot)⟩

/-- The program of a call to preferences that are kept somewhere. -/
def programIn (store : Store) (config : Config) : Change → Program Unit
  | .set provider topic choice c => store.set config provider topic choice c
  | .remove provider topic c => store.remove config provider topic c
  | .erase user topics => store.erase config user topics

theorem program_eq (config : Config) (ch : Change) :
    ch.program config = ch.programIn .memory config := by
  cases ch <;> rfl

/-- A call that is refused fails at once, wherever preferences are kept. -/
theorem programIn_refused (store : Store) (config : Config) {ch : Change} {refusal : Refusal}
    (h : ch.deed = .error refusal) : ch.programIn store config = .fail (.refused refusal) := by
  cases ch with
  | erase user topics => cases h
  | remove provider topic c =>
      have hwrites := removal_writes provider topic c
      rw [h] at hwrites
      simp only [programIn, Store.remove, orRefused, hwrites]
      rfl
  | set provider topic choice c =>
      have hwrites := update_writes provider topic choice c
      rw [h] at hwrites
      cases hupdate : update provider topic choice c with
      | ok u => rw [hupdate] at hwrites; cases hwrites
      | error refusal' =>
          rw [hupdate] at hwrites
          cases hwrites
          simp only [programIn, Store.set, orRefused, hupdate]
          rfl

/-- Any other call makes the writes of its deed together; then it may write to the log. -/
theorem programIn_accepted (store : Store) (config : Config) {ch : Change} {d : Deed}
    (h : ch.deed = .ok d) :
    ∃ next, ch.programIn store config = (store.transact config d.writes (.ok ())).bind next ∧
      (next = .done ∨ ∃ message fields, next = fun _ => Program.log .debug message fields) := by
  cases ch with
  | erase user topics =>
      cases h
      exact ⟨.done, (Program.bind_done _).symm, .inl rfl⟩
  | remove provider topic c =>
      have hwrites := removal_writes provider topic c
      rw [h] at hwrites
      simp only [programIn, Store.remove, orRefused, hwrites]
      exact ⟨.done, (Program.bind_done _).symm, .inl rfl⟩
  | set provider topic choice c =>
      have hwrites := update_writes provider topic choice c
      rw [h] at hwrites
      simp only [programIn, Store.set, orRefused]
      cases hupdate : update provider topic choice c with
      | error refusal => rw [hupdate] at hwrites; cases hwrites
      | ok u =>
          rw [hupdate] at hwrites
          have hu : u.writes = d.writes := Except.ok.inj hwrites
          cases u with
          | removed writes =>
              obtain rfl : writes = d.writes := hu
              exact ⟨.done, (Program.bind_done _).symm, .inl rfl⟩
          | stored key writes =>
              obtain rfl : writes = d.writes := hu
              exact ⟨_, rfl, .inr ⟨_, _, rfl⟩⟩

/-- Every call is carried out in one turn.  A refused one changes nothing at all. -/
theorem turn_program (config : Config) (ch : Change) (w : World) :
    ch.CarriedOut w ((ch.program config).turn w) := by
  rw [program_eq]
  cases hdeed : ch.deed with
  | error refusal =>
      rw [programIn_refused .memory config hdeed]
      exact carriedOut_refused hdeed w
  | ok d =>
      obtain ⟨next, hprogram, hnext⟩ := programIn_accepted .memory config hdeed
      rw [hprogram]
      refine carriedOut_transact config hdeed next ?_ w
      rcases hnext with rfl | ⟨message, fields, rfl⟩
      · exact fun w => ⟨w, rfl, rfl⟩
      · exact turn_log .debug message fields

end Change

end Preference

end AlertRelay
