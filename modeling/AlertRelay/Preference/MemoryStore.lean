import AlertRelay.Assoc
import AlertRelay.Preference.Write

/-!
A store of preferences and options that is kept in memory.

Rows are found by texts made of the parts of their keys, with bars between them, and are
listed in the order in which they were first stored.  `transact` makes all writes of a
change, or none of them.
-/

namespace AlertRelay.Preference

/-- A stored preference. -/
structure SettingRow where
  key : Key
  choice : Choice
deriving DecidableEq, Repr

/-- A stored option. -/
structure OptionRow where
  key : OptionKey
  value : OptionValue
deriving DecidableEq, Repr

/-- Parts of a name with bars between them. -/
def barred (parts : List String) : String :=
  "|".intercalate parts

/-- The name of the row of a preference. -/
def Key.rowName (k : Key) : String :=
  barred [k.provider.code.text, k.topic.code.text, k.scope.kind.code.text, k.scope.id,
    k.target.kind.name, k.target.id]

/-- The name of the row of an option. -/
def OptionKey.rowName (k : OptionKey) : String :=
  barred [k.user, k.project.getD "", k.organization.getD "", k.key]

/-- A store in memory, with the number of changes tried so far, and the name of the kind of
write that it refuses, if any. -/
structure MemoryStore where
  settings : Assoc SettingRow
  options : Assoc OptionRow
  transactions : Nat
  refuses : Option String
deriving Repr

namespace MemoryStore

/-- The store without rows. -/
def empty : MemoryStore := ⟨[], [], 0, none⟩

/-- Makes one write. -/
def apply (s : MemoryStore) : Write → MemoryStore
  | .putSetting key choice => { s with settings := s.settings.put key.rowName ⟨key, choice⟩ }
  | .dropSetting key => { s with settings := s.settings.drop key.rowName }
  | .dropSettingsOf target topics =>
    { s with
      settings := s.settings.filter fun (_, row) =>
        !(row.key.target == target && topics.includes row.key.topic) }
  | .putOption key value => { s with options := s.options.put key.rowName ⟨key, value⟩ }
  | .dropOption key => { s with options := s.options.drop key.rowName }
  | .dropOptionsOf user keys =>
    { s with
      options := s.options.filter fun (_, row) =>
        !(row.key.user == user && keys.contains row.key.key) }

/-- Makes writes one after the other up to the first that is refused; then the name of its
kind is given instead. -/
def applyAll (s : MemoryStore) : List Write → Except String MemoryStore
  | [] => .ok s
  | w :: rest => if s.refuses = some w.name then .error w.name else applyAll (s.apply w) rest

/-- Makes all writes of a change, or none if one of them is refused. -/
def transact (s : MemoryStore) (writes : List Write) : Except String Unit × MemoryStore :=
  let counted := { s with transactions := s.transactions + 1 }
  match counted.applyAll writes with
  | .ok after => (.ok (), after)
  | .error name => (.error name, counted)

/-- The choice stored for a key. -/
def choice? (s : MemoryStore) (key : Key) : Option Choice :=
  (s.settings.get? key.rowName).map (·.choice)

/-- The values that users have for an option of a project, by user. -/
def optionValues (s : MemoryStore) (users : List String) (project key : String) :
    Assoc OptionValue :=
  s.options.foldl
    (fun found (_, row) =>
      if users.contains row.key.user && row.key.project == some project && row.key.key == key
      then found.put row.key.user row.value
      else found)
    []

end MemoryStore

end AlertRelay.Preference
