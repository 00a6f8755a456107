import AlertRelay.Preference.Basic

/-!
Options of users, the older form of preferences.

Topics with an older form have an option key, and their choices an option value.  Preferences
of users are kept as options too, so that older readers see them.
-/

namespace AlertRelay.Preference

/-- The value of an option: a text, or a number for issue alerts. -/
inductive OptionValue where
  | text (s : String)
  | number (n : Double)
deriving DecidableEq, Repr

/-- What an option is found by. -/
structure OptionKey where
  user : String
  key : String
  project : Option String
  organization : Option String
deriving DecidableEq, Repr

/-- The option key of a topic within a project. -/
def Topic.optionKey? (t : Topic) : Option String :=
  if t = .deploy then some "deploy-emails"
  else if t = .issueAlerts then some "mail:alert"
  else if t = .workflow then some "workflow:notifications"
  else none

/-- The option key of issue alerts outside of projects. -/
def issueAlertsDefaultKey : String := "subscribe_by_default"

/-- The option keys of all topics. -/
def allOptionKeys : List String :=
  ["deploy-emails", "mail:alert", "workflow:notifications", issueAlertsDefaultKey]

/-- The option key of a topic inside or outside of a project. -/
def Topic.optionKeyFor? (t : Topic) (inProject : Bool) : Option String :=
  match t.optionKey? with
  | none => none
  | some key =>
    if t = .issueAlerts ∧ !inProject then some issueAlertsDefaultKey else some key

/-- All option keys under which a topic may be stored. -/
def Topic.optionKeys (t : Topic) : List String :=
  match t.optionKey? with
  | none => []
  | some key => if t = .issueAlerts then [key, issueAlertsDefaultKey] else [key]

/-- The text that stands for a choice about a topic in the older form. -/
def Topic.optionText? (t : Topic) (c : Choice) : Option String :=
  if t = .deploy then
    if c = .always then some "2"
    else if c = .committedOnly then some "3"
    else if c = .never then some "4"
    else none
  else if t = .issueAlerts then
    if c = .always then some "1"
    else if c = .never then some "0"
    else none
  else if t = .workflow then
    if c = .always then some "0"
    else if c = .subscribeOnly then some "1"
    else if c = .never then some "2"
    else none
  else none

/-- Whether a choice can be made about a topic: whether it has an older form. -/
def Topic.allows (t : Topic) (c : Choice) : Bool :=
  (t.optionText? c).isSome

/-- The number that an option text writes. -/
def optionNumber (s : String) : Double :=
  if s = "1" then 1 else 0

/-- The option key and value that stand for a choice. -/
def Topic.option? (t : Topic) (c : Choice) (inProject : Bool) :
    Option (String × OptionValue) :=
  match t.optionKeyFor? inProject, t.optionText? c with
  | some key, some s =>
    some (key, if t = .issueAlerts then .number (optionNumber s) else .text s)
  | _, _ => none

/-- The key under which a user's option is stored.  Within a project the organization does
not count; teams have no options. -/
def Coordinates.optionKey? (c : Coordinates) (key : Option String) : Option OptionKey :=
  match c.user, key with
  | some user, some key =>
    some ⟨user, key, c.project, if c.project.isSome then none else c.organization⟩
  | _, _ => none

end AlertRelay.Preference
