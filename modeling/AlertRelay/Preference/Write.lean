import AlertRelay.Preference.Legacy

/-!
Changes of preferences as lists of writes.

A request to change preferences is first turned into the writes that carry it out, or
refused.  The writes of one request belong together: a store makes all of them or none.
-/

namespace AlertRelay.Preference

/-- Which preferences are meant: those about every topic, about one, or about none at all. -/
inductive Topics where
  | every
  | one (topic : Topic)
  | none
deriving DecidableEq, Repr

/-- Whether a topic is meant. -/
def Topics.includes : Topics → Topic → Bool
  | .every, _ => true
  | .one t, topic => topic == t
  | .none, _ => false

/-- One write to a store of preferences and options. -/
inductive Write where
  | putSetting (key : Key) (choice : Choice)
  | dropSetting (key : Key)
  | dropSettingsOf (target : Target) (topics : Topics)
  | putOption (key : OptionKey) (value : OptionValue)
  | dropOption (key : OptionKey)
  | dropOptionsOf (user : String) (keys : List String)
deriving DecidableEq, Repr

/-- The name of a kind of write. -/
def Write.name : Write → String
  | .putSetting .. => "upsertSetting"
  | .dropSetting .. => "deleteSetting"
  | .dropSettingsOf .. => "deleteSettingsForTarget"
  | .putOption .. => "setUserOption"
  | .dropOption .. => "unsetUserOption"
  | .dropOptionsOf .. => "deleteUserOptions"

/-- Why a change is refused. -/
inductive Refusal where
  | coordinates (fault : CoordinatesFault)
  | notAllowed (topic : Topic) (choice : Choice)
deriving DecidableEq, Repr

/-- What is told about a refused change. -/
def Refusal.message : Refusal → String
  | .coordinates fault => fault.message
  | .notAllowed topic choice =>
    "value '" ++ choice.code.text ++ "' is not valid for type '" ++ topic.code.text ++ "'"

/-- The key of a preference, or the refusal of its coordinates. -/
def keyOf (provider : Provider) (topic : Topic) (c : Coordinates) : Except Refusal Key :=
  match c.key provider topic with
  | .ok key => .ok key
  | .error fault => .error (.coordinates fault)

/-- The writes that remove a preference, and the option that stands for it. -/
def removal (provider : Provider) (topic : Topic) (c : Coordinates) :
    Except Refusal (List Write) :=
  match keyOf provider topic c with
  | .error e => .error e
  | .ok key =>
    let option := c.optionKey? (topic.optionKeyFor? c.project.isSome)
    .ok (.dropSetting key :: (option.map Write.dropOption).toList)

/-- The writes that store a choice, and the option that stands for it. -/
def storing (key : Key) (topic : Topic) (choice : Choice) (c : Coordinates) : List Write :=
  let kept := topic.option? choice c.project.isSome
  match kept, c.optionKey? (kept.map (·.1)) with
  | some (_, value), some option => [.putSetting key choice, .putOption option value]
  | _, _ => [.putSetting key choice]

/-- What an update amounts to: a removal if the choice is to inherit, else a stored choice
with its key. -/
inductive Update where
  | removed (writes : List Write)
  | stored (key : Key) (writes : List Write)
deriving DecidableEq, Repr

/-- The writes of an update. -/
def Update.writes : Update → List Write
  | .removed ws => ws
  | .stored _ ws => ws

/-- What an update amounts to, or why it is refused: a choice that cannot be made is found
before a fault of the coordinates. -/
def update (provider : Provider) (topic : Topic) (choice : Choice) (c : Coordinates) :
    Except Refusal Update :=
  if choice = .inherit then (removal provider topic c).map .removed
  else if topic.allows choice then
    match keyOf provider topic c with
    | .error e => .error e
    | .ok key => .ok (.stored key (storing key topic choice c))
  else .error (.notAllowed topic choice)

/-- The option keys of topics. -/
def Topics.optionKeys : Topics → List String
  | .every => allOptionKeys
  | .one topic => topic.optionKeys
  | .none => []

/-- The writes that erase the preferences of a user about topics. -/
def erasure (user : String) (topics : Topics) : List Write :=
  [.dropOptionsOf user topics.optionKeys, .dropSettingsOf ⟨.user, user⟩ topics]

end AlertRelay.Preference
