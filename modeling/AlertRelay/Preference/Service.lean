import AlertRelay.Preference.Store

/-!
Preferences as they are asked for and changed.

A change is checked before anything is written, and all its writes are one transaction.
-/

namespace AlertRelay.Preference

/-- A result, or the failure that a change is refused. -/
def orRefused {α : Type} (r : Except Refusal α) : Program α :=
  Program.ofExcept (r.mapError Failure.refused)

namespace Store

variable (store : Store) (config : Config)

/-- The choice in force for coordinates; where none is stored it is to inherit. -/
def choiceFor (provider : Provider) (topic : Topic) (c : Coordinates) : Program Choice := do
  let key ← orRefused (keyOf provider topic c)
  return (← store.choice? config key).getD .inherit

/-- Removes a preference. -/
def remove (provider : Provider) (topic : Topic) (c : Coordinates) : Program Unit := do
  store.transact config (← orRefused (removal provider topic c)) (.ok ())

/-- Stores a choice, or removes it if it is to inherit.  The log tells of a stored one. -/
def set (provider : Provider) (topic : Topic) (choice : Choice) (c : Coordinates) :
    Program Unit := do
  match ← orRefused (update provider topic choice c) with
  | .removed writes => store.transact config writes (.ok ())
  | .stored key writes =>
    store.transact config writes (.ok ())
    Program.log .debug "notification_settings.updated"
      [("provider", .number provider.code), ("type", .number topic.code),
        ("value", .number choice.code), ("scopeType", .number key.scope.kind.code),
        ("targetType", .text key.target.kind.name)]

/-- Erases the preferences of a user about topics. -/
def erase (user : String) (topics : Topics) : Program Unit :=
  store.transact config (erasure user topics) (.ok ())

/-- The values of the options that stand for users' choices about a topic in a project, by
user. -/
def choicesOfUsers (provider : Provider) (topic : Topic) (users : List String)
    (project : String) : Program OptionValues := do
  match topic.optionKeyFor? true with
  | none => return []
  | some key =>
    let found ← store.optionValues config users project key
    Program.log .debug "notification_settings.users_loaded"
      [("provider", .number provider.code), ("type", .number topic.code),
        ("requested", .number (.ofNat users.length)), ("found", .number (.ofNat found.length))]
    return found

end Store

end AlertRelay.Preference
