import AlertRelay.Database.Query
import AlertRelay.Preference.Write
import AlertRelay.Value.Json

/-!
Writes and look-ups of preferences as statements for the database.

Each write is carried out by statements over two tables, one for preferences and one for
options.  `Statement.query` gives their text and parameters.
-/

namespace AlertRelay.Preference

open Database

/-- A statement about preferences or options. -/
inductive Statement where
  | upsertSetting (key : Key) (choice : Choice)
  | deleteSetting (key : Key)
  | deleteSettingsOf (target : Target) (topics : Topics)
  | insertOption (key : OptionKey) (value : OptionValue)
  | deleteOption (key : OptionKey)
  | deleteOptionsOf (user : String) (keys : List String)
  | selectSetting (key : Key)
  | selectOptions (users : List String) (project key : String)
deriving DecidableEq, Repr

/-- The condition that a row is the one of a key. -/
def keyCondition : String :=
  "provider = $1 AND type = $2 AND scope_type = $3 AND scope_identifier = $4 " ++
    "AND target_type = $5 AND target_identifier = $6"

/-- The parameters of a key. -/
def Key.params (k : Key) : List Value :=
  [.number k.provider.code, .number k.topic.code, .number k.scope.kind.code, .text k.scope.id,
    .text k.target.kind.name, .text k.target.id]

/-- The value of an option as a value. -/
def OptionValue.value : OptionValue → Value
  | .text s => .text s
  | .number n => .number n

/-- The parameters of the key of an option, up to the key's own name. -/
def OptionKey.params (k : OptionKey) : List Value :=
  [.text k.user, .ofText? k.project, .ofText? k.organization, .text k.key]

/-- The deletion of the rows of a target. -/
def targetDeletion : String :=
  "DELETE FROM notification_setting WHERE target_type = $1 AND target_identifier = $2"

/-- The parameters of a target. -/
def Target.params (t : Target) : List Value :=
  [.text t.kind.name, .text t.id]

/-- A list of texts as a parameter. -/
def textList (xs : List String) : Value :=
  .ofList (xs.map .text)

namespace Statement

/-- The text and the parameters of a statement. -/
def query : Statement → Query
  | .upsertSetting key choice =>
    ⟨"INSERT INTO notification_setting (provider, type, scope_type, scope_identifier, " ++
        "target_type, target_identifier, value) VALUES ($1, $2, $3, $4, $5, $6, $7) " ++
        "ON CONFLICT (provider, type, scope_type, scope_identifier, target_type, " ++
        "target_identifier) DO UPDATE SET value = EXCLUDED.value " ++
        "WHERE notification_setting.value IS DISTINCT FROM EXCLUDED.value",
      some (key.params ++ [.number choice.code])⟩
  | .deleteSetting key =>
    ⟨"DELETE FROM notification_setting WHERE " ++ keyCondition, some key.params⟩
  | .deleteSettingsOf target .every => ⟨targetDeletion, some target.params⟩
  | .deleteSettingsOf target (.one topic) =>
    ⟨targetDeletion ++ " AND type = $3", some (target.params ++ [.number topic.code])⟩
  | .deleteSettingsOf target .none =>
    ⟨targetDeletion ++ " AND type = $3", some (target.params ++ [.null])⟩
  | .insertOption key value =>
    ⟨"INSERT INTO user_option (user_id, project_id, organization_id, key, value) " ++
        "VALUES ($1, $2, $3, $4, $5::jsonb)",
      some (key.params ++ [.text value.value.json])⟩
  | .deleteOption key =>
    ⟨"DELETE FROM user_option WHERE user_id = $1 AND project_id IS NOT DISTINCT FROM $2 " ++
        "AND organization_id IS NOT DISTINCT FROM $3 AND key = $4",
      some key.params⟩
  | .deleteOptionsOf user keys =>
    ⟨"DELETE FROM user_option WHERE user_id = $1 AND key = ANY($2::text[])",
      some [.text user, textList keys]⟩
  | .selectSetting key =>
    ⟨"SELECT value FROM notification_setting WHERE " ++ keyCondition ++ " LIMIT 1",
      some key.params⟩
  | .selectOptions users project key =>
    ⟨"SELECT user_id, value FROM user_option WHERE user_id = ANY($1::text[]) " ++
        "AND project_id = $2 AND key = $3",
      some [textList users, .text project, .text key]⟩

/-- The choice that the answer to a look-up of a preference gives: the value of its first
row, if it is the code of a choice. -/
def choiceOf? (rows : List Row) : Option Choice :=
  match rows with
  | row :: _ =>
    match row.get "value" with
    | .number n => Choice.all.find? (·.code == n)
    | _ => none
  | [] => none

/-- The value of an option that a column holds, if it is one. -/
def optionValueOf? : Value → Option OptionValue
  | .text s => some (.text s)
  | .number n => some (.number n)
  | _ => none

end Statement

/-- Values of an option by user, as users are stored. -/
abbrev OptionValues := List (Value × OptionValue)

namespace OptionValues

/-- Whether two stored users are the same.  Containers never are. -/
def sameUser : Value → Value → Bool
  | .undefined, .undefined => true
  | .null, .null => true
  | .bool a, .bool b => a == b
  | .number a, .number b => a == b || a.isNaN && b.isNaN
  | .bigint a, .bigint b => a == b
  | .text a, .text b => a == b
  | _, _ => false

/-- Sets the value of a user, who keeps the place among the others. -/
def put (user : Value) (v : OptionValue) : OptionValues → OptionValues
  | [] => [(user, v)]
  | (other, old) :: rest =>
    if sameUser other user then (other, v) :: rest else (other, old) :: put user v rest

/-- Values by users who are known by texts. -/
def ofNames (values : Assoc OptionValue) : OptionValues :=
  values.map fun (user, v) => (.text user, v)

end OptionValues

/-- The statements that carry out a write.  An option is replaced by deleting and inserting;
an empty list of keys needs no statement. -/
def Write.statements : Write → List Statement
  | .putSetting key choice => [.upsertSetting key choice]
  | .dropSetting key => [.deleteSetting key]
  | .dropSettingsOf target topics => [.deleteSettingsOf target topics]
  | .putOption key value => [.deleteOption key, .insertOption key value]
  | .dropOption key => [.deleteOption key]
  | .dropOptionsOf user keys => if keys.isEmpty then [] else [.deleteOptionsOf user keys]

end AlertRelay.Preference
