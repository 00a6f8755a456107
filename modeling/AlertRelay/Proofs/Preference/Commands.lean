import AlertRelay.Proofs.Database.Session
import AlertRelay.Proofs.Preference.OptionValues
import AlertRelay.Proofs.Preference.Tables

/-!
Statements about preferences and options as commands on two tables.

Every statement is a command by its text (`Statement.text_command`), so that its meaning is that
of the command with its parameters.  `Mirrors` says that the two tables hold the rows of a store
in memory.  Each statement does to such tables what a write does to the rows in memory, whatever
name the row has there: `NULL` stands for a part that is missing, and is told from every text.
-/

namespace AlertRelay.Preference

open Assoc (Keyed rows names)
open Database

/-- The columns of the key of a preference. -/
def keyColumns : List String :=
  ["provider", "type", "scope_type", "scope_identifier", "target_type", "target_identifier"]

/-- The table of preferences. -/
def settingTable : Table where
  name := "notification_setting"
  columns := [⟨"provider", .integer, true⟩, ⟨"type", .integer, true⟩,
    ⟨"scope_type", .integer, true⟩, ⟨"scope_identifier", .text, true⟩,
    ⟨"target_type", .text, true⟩, ⟨"target_identifier", .text, true⟩,
    ⟨"value", .integer, true⟩]
  key := keyColumns.map fun column => ⟨column, false⟩

/-- The table of options.  Its records are numbered too; no statement asks for the number. -/
def optionTable : Table where
  name := "user_option"
  columns := [⟨"user_id", .text, true⟩, ⟨"project_id", .text, false⟩,
    ⟨"organization_id", .text, false⟩, ⟨"key", .text, true⟩, ⟨"value", .jsonb, true⟩]
  key := [⟨"user_id", false⟩, ⟨"project_id", true⟩, ⟨"organization_id", true⟩, ⟨"key", false⟩]

/-- The columns of an option. -/
def optionColumns : List String :=
  ["user_id", "project_id", "organization_id", "key", "value"]

/-- The conditions that a preference is the one of a key. -/
def keyConditions : List Condition :=
  keyColumns.map fun column => ⟨column, .equal⟩

/-- The conditions that a preference is one of a target. -/
def targetConditions : List Condition :=
  [⟨"target_type", .equal⟩, ⟨"target_identifier", .equal⟩]

/-- The conditions that a preference is one of a target about a topic. -/
def topicConditions : List Condition :=
  targetConditions ++ [⟨"type", .equal⟩]

/-- The conditions that an option is the one of a key. -/
def optionConditions : List Condition :=
  [⟨"user_id", .equal⟩, ⟨"project_id", .notDistinct⟩, ⟨"organization_id", .notDistinct⟩,
    ⟨"key", .equal⟩]

/-- The conditions that an option is one of a user under some option keys. -/
def userConditions : List Condition :=
  [⟨"user_id", .equal⟩, ⟨"key", .among⟩]

/-- The conditions that an option is one of some users in a project. -/
def projectConditions : List Condition :=
  [⟨"user_id", .among⟩, ⟨"project_id", .equal⟩, ⟨"key", .equal⟩]

/-- The commands that statements are. -/
def commands : List Command :=
  [.upsert settingTable (keyColumns ++ ["value"]) "value",
    .delete settingTable keyConditions,
    .delete settingTable targetConditions,
    .delete settingTable topicConditions,
    .insert optionTable optionColumns,
    .delete optionTable optionConditions,
    .delete optionTable userConditions,
    .select settingTable ["value"] keyConditions (some 1),
    .select optionTable ["user_id", "value"] projectConditions none]

namespace Statement

/-- The command that a statement is. -/
def command : Statement → Command
  | .upsertSetting .. => .upsert settingTable (keyColumns ++ ["value"]) "value"
  | .deleteSetting _ => .delete settingTable keyConditions
  | .deleteSettingsOf _ .every => .delete settingTable targetConditions
  | .deleteSettingsOf .. => .delete settingTable topicConditions
  | .insertOption .. => .insert optionTable optionColumns
  | .deleteOption _ => .delete optionTable optionConditions
  | .deleteOptionsOf .. => .delete optionTable userConditions
  | .selectSetting _ => .select settingTable ["value"] keyConditions (some 1)
  | .selectOptions .. => .select optionTable ["user_id", "value"] projectConditions none

/-- The parameters of a statement. -/
def params (s : Statement) : List Value :=
  s.query.params.getD []

/-- A statement is its command, word by word. -/
theorem text_command (s : Statement) : s.query.text = s.command.text := by
  cases s with
  | deleteSettingsOf target topics => cases topics <;> rfl
  | upsertSetting key choice =>
      -- The text is too long for the usual depth.
      set_option maxRecDepth 2000 in rfl
  | _ => rfl

theorem query_eq (s : Statement) : s.query = ⟨s.command.text, some s.params⟩ := by
  have hparams : s.query.params = some s.params := by
    cases s with
    | deleteSettingsOf target topics => cases topics <;> rfl
    | _ => rfl
  rw [← text_command, ← hparams]

theorem command_mem (s : Statement) : s.command ∈ commands := by
  cases s with
  | deleteSettingsOf target topics => cases topics <;> simp [command, commands]
  | _ => simp [command, commands]

/-- What a statement comes to. -/
def meaning? (contents : Contents) (s : Statement) : Option Meaning :=
  s.command.meaning? s.params contents

/-- The contents after statements, one after the other. -/
def after? : List Statement → Contents → Option Contents
  | [], contents => some contents
  | s :: rest, contents => (s.meaning? contents).bind fun m => after? rest m.after

theorem after?_cons {s : Statement} {rest : List Statement} {contents : Contents} {m : Meaning}
    (h : s.meaning? contents = some m) : after? (s :: rest) contents = after? rest m.after := by
  rw [after?, h, Option.bind_some]

theorem after?_append {first rest : List Statement} {contents between : Contents}
    (h : after? first contents = some between) :
    after? (first ++ rest) contents = after? rest between := by
  induction first generalizing contents with
  | nil =>
      cases h
      rfl
  | cons s first ih =>
      obtain ⟨m, hm, hfirst⟩ := Option.bind_eq_some_iff.mp h
      rw [List.cons_append, after?_cons hm]
      exact ih hfirst

end Statement

/-- A text that may be missing, as a cell. -/
def cellOfText? : Option String → Cell
  | some s => .text s
  | none => .null

/-- The record of a preference. -/
def SettingRow.record (row : SettingRow) : Record :=
  [("provider", .integer row.key.provider.code), ("type", .integer row.key.topic.code),
    ("scope_type", .integer row.key.scope.kind.code), ("scope_identifier", .text row.key.scope.id),
    ("target_type", .text row.key.target.kind.name),
    ("target_identifier", .text row.key.target.id), ("value", .integer row.choice.code)]

/-- The record of an option. -/
def OptionRow.record (o : OptionRow) : Record :=
  [("user_id", .text o.key.user), ("project_id", cellOfText? o.key.project),
    ("organization_id", cellOfText? o.key.organization), ("key", .text o.key.key),
    ("value", .document o.value.value)]

/-- A key with a known provider and topic and with identities that the database can store. -/
structure Key.Storable (k : Key) : Prop where
  provider : k.provider ∈ Provider.all
  topic : k.topic ∈ Topic.all
  target : Database.Storable k.target.id
  scope : Database.Storable k.scope.id

/-- The key of an option with identities that the database can store. -/
structure OptionKey.Storable (o : OptionKey) : Prop where
  user : Database.Storable o.user
  project : ∀ id, o.project = some id → Database.Storable id
  organization : ∀ id, o.organization = some id → Database.Storable id
  key : Database.Storable o.key

/-- The value of an option that comes back from the database as it was. -/
def OptionValue.Storable (v : OptionValue) : Prop :=
  Cell.ofValue? .jsonb (.text v.value.json) = some (.document v.value)

/-- Topics that are stored by a code of 32 bits. -/
def Topics.Known : Topics → Prop
  | .one topic => topic ∈ Topic.all
  | _ => True

theorem Provider.isInt32_code : ∀ p ∈ all, isInt32 p.code = true := by
  decide +kernel

theorem Topic.isInt32_code : ∀ t ∈ all, isInt32 t.code = true := by
  decide +kernel

theorem Choice.isInt32_code : ∀ c ∈ all, isInt32 c.code = true := by
  decide +kernel

theorem ScopeKind.isInt32_code (k : ScopeKind) : isInt32 k.code = true := by
  cases k <;> decide +kernel

theorem TargetKind.storable_name (k : TargetKind) : Storable k.name := by
  cases k <;> decide

/-- The parts of a target that are stored tell it from all others. -/
theorem Target.beq_parts (t u : Target) :
    (t.kind.name == u.kind.name && t.id == u.id) = (t == u) := by
  obtain ⟨kind, id⟩ := t
  obtain ⟨kind', id'⟩ := u
  rw [Bool.eq_iff_iff]
  simp only [Bool.and_eq_true, beq_iff_eq, mk.injEq]
  exact and_congr_left fun _ => ⟨TargetKind.eq_of_name, congrArg TargetKind.name⟩

/-- The parts of a key that are stored tell it from all others. -/
theorem Key.beq_parts (k l : Key) :
    (k.provider.code == l.provider.code && (k.topic.code == l.topic.code &&
      (k.scope.kind.code == l.scope.kind.code && (k.scope.id == l.scope.id &&
        (k.target.kind.name == l.target.kind.name && k.target.id == l.target.id))))) =
      (k == l) := by
  have hscopeKind : k.scope.kind.code = l.scope.kind.code ↔ k.scope.kind = l.scope.kind :=
    ⟨fun h => ScopeKind.eq_of_text (congrArg Double.text h), congrArg ScopeKind.code⟩
  rw [Target.beq_parts, Bool.eq_iff_iff]
  simp only [Bool.and_eq_true, beq_iff_eq, hscopeKind]
  obtain ⟨⟨provider⟩, ⟨topic⟩, target, ⟨scopeKind, scopeId⟩⟩ := k
  obtain ⟨⟨provider'⟩, ⟨topic'⟩, target', ⟨scopeKind', scopeId'⟩⟩ := l
  simp only [mk.injEq, Provider.mk.injEq, Topic.mk.injEq, Scope.mk.injEq]
  tauto

/-- The parts of the key of an option tell it from all others. -/
theorem OptionKey.beq_parts (o p : OptionKey) :
    (o.user == p.user && (o.project == p.project && (o.organization == p.organization &&
      o.key == p.key))) = (o == p) := by
  obtain ⟨user, key, project, organization⟩ := o
  obtain ⟨user', key', project', organization'⟩ := p
  rw [Bool.eq_iff_iff]
  simp only [Bool.and_eq_true, beq_iff_eq, mk.injEq]
  tauto

/-- `NULL` is told from every text. -/
theorem cellOfText?_notDistinct (s t : Option String) :
    (cellOfText? s).notDistinct (cellOfText? t) = (s == t) := by
  cases s <;> cases t <;> rfl

/-- A text that may be missing is sent as it is stored. -/
theorem ofValue?_ofText? {s : Option String} (h : ∀ id, s = some id → Storable id) :
    Cell.ofValue? .text (.ofText? s) = some (cellOfText? s) := by
  cases s with
  | none => rfl
  | some id => simp [Value.ofText?, cellOfText?, h id rfl]

theorem asks_key {k : Key} (hk : k.Storable) :
    Asks settingTable keyConditions k.params SettingRow.record (·.key == k) := by
  have hprovider := Provider.isInt32_code _ hk.provider
  have htopic := Topic.isInt32_code _ hk.topic
  simpa [Asks, keyConditions, keyColumns, Key.params, settingTable, hprovider, htopic,
    ScopeKind.isInt32_code, hk.target, hk.scope, TargetKind.storable_name, SettingRow.record]
    using fun row : SettingRow => Key.beq_parts row.key k

theorem asks_target {t : Target} (ht : Storable t.id) :
    Asks settingTable targetConditions t.params SettingRow.record (·.key.target == t) := by
  simpa [Asks, targetConditions, Target.params, settingTable, ht, TargetKind.storable_name,
    SettingRow.record]
    using fun row : SettingRow => Target.beq_parts row.key.target t

theorem asks_targetTopic {t : Target} (ht : Storable t.id) {topic : Topic}
    (htopic : topic ∈ Topic.all) :
    Asks settingTable topicConditions (t.params ++ [.number topic.code]) SettingRow.record
      fun row => row.key.target == t && row.key.topic == topic := by
  have hcode := Topic.isInt32_code _ htopic
  have hsame : ∀ row : SettingRow, (row.key.target.kind.name == t.kind.name &&
      (row.key.target.id == t.id && row.key.topic.code == topic.code)) =
      (row.key.target == t && row.key.topic == topic) := by
    intro row
    have htopics : (row.key.topic.code == topic.code) = (row.key.topic == topic) := by
      rw [Bool.eq_iff_iff, beq_iff_eq, beq_iff_eq]
      exact ⟨congrArg Topic.mk, congrArg Topic.code⟩
    rw [← Bool.and_assoc, Target.beq_parts, htopics]
  simpa [Asks, topicConditions, targetConditions, Target.params, settingTable, ht,
    TargetKind.storable_name, hcode, SettingRow.record] using hsame

/-- Nothing is equal to a parameter that is missing. -/
theorem asks_targetNone {t : Target} (ht : Storable t.id) :
    Asks settingTable topicConditions (t.params ++ [.null]) SettingRow.record
      fun _ => false := by
  simp [Asks, topicConditions, targetConditions, Target.params, settingTable, ht,
    TargetKind.storable_name]

theorem asks_optionKey {o : OptionKey} (ho : o.Storable) :
    Asks optionTable optionConditions o.params OptionRow.record (·.key == o) := by
  simpa [Asks, optionConditions, OptionKey.params, optionTable, ho.user, ho.key,
    ofValue?_ofText? ho.project, ofValue?_ofText? ho.organization, cellOfText?_notDistinct,
    OptionRow.record]
    using fun row : OptionRow => OptionKey.beq_parts row.key o

theorem ofTexts?_textList {xs : List String} (h : ∀ x ∈ xs, Storable x) :
    Cell.ofTexts? (textList xs) = some (xs.map .text) := by
  simp only [textList, Cell.ofTexts?]
  induction xs with
  | nil => rfl
  | cons x rest ih =>
      rw [List.forall_mem_cons] at h
      simp [h.1, ih h.2]

theorem any_equal_text (xs : List String) (s : String) :
    xs.any ((Cell.text s).equal ∘ .text) = decide (s ∈ xs) := by
  rw [Bool.eq_iff_iff]
  simp [List.any_eq_true]

theorem asks_optionsOf {user : String} (huser : Storable user) {keys : List String}
    (hkeys : ∀ key ∈ keys, Storable key) :
    Asks optionTable userConditions [.text user, textList keys] OptionRow.record
      fun o => o.key.user == user && keys.contains o.key.key := by
  simp [Asks, userConditions, optionTable, huser, ofTexts?_textList hkeys, OptionRow.record,
    any_equal_text]

/-- An option of which it is not known where it applies is equal to none in a project. -/
theorem asks_optionsFor {users : List String} (husers : ∀ user ∈ users, Storable user)
    {project key : String} (hproject : Storable project) (hkey : Storable key) :
    Asks optionTable projectConditions [textList users, .text project, .text key]
      OptionRow.record (MemoryStore.Apart.asked users project key) := by
  have hsame (o : OptionRow) :
      (cellOfText? o.key.project).equal (.text project) = (o.key.project == some project) := by
    cases o.key.project <;> rfl
  simp [Asks, projectConditions, optionTable, hproject, hkey, ofTexts?_textList husers,
    OptionRow.record, any_equal_text, hsame, MemoryStore.Apart.asked, Bool.and_assoc]

/-- The two tables hold the rows of preferences and of options. -/
structure Mirrors (contents : Contents) (a : Assoc SettingRow) (b : Assoc OptionRow) : Prop where
  settings : Holds SettingRow.record a (contents settingTable.name)
  options : Holds OptionRow.record b (contents optionTable.name)

namespace Mirrors

variable {contents : Contents} {a a' : Assoc SettingRow} {b b' : Assoc OptionRow}
  {records : List Record}

theorem setSettings (h : Mirrors contents a b) (ha : Holds SettingRow.record a' records) :
    Mirrors (Function.update contents settingTable.name records) a' b where
  settings := by
    rw [Function.update_self]
    exact ha
  options := by
    rw [Function.update_of_ne (by decide)]
    exact h.options

theorem setOptions (h : Mirrors contents a b) (hb : Holds OptionRow.record b' records) :
    Mirrors (Function.update contents optionTable.name records) a b' where
  settings := by
    rw [Function.update_of_ne (by decide)]
    exact h.settings
  options := by
    rw [Function.update_self]
    exact hb

/-- The record of a new preference is made of the parameters. -/
theorem record?_setting {row : SettingRow} (hkey : row.key.Storable)
    (hchoice : row.choice ∈ Choice.all) :
    settingTable.record? (keyColumns ++ ["value"]) (row.key.params ++ [.number row.choice.code]) =
      some row.record := by
  have hprovider := Provider.isInt32_code _ hkey.provider
  have htopic := Topic.isInt32_code _ hkey.topic
  have hcode := Choice.isInt32_code _ hchoice
  simp [Table.record?, Table.cells?, keyColumns, Key.params, settingTable, hprovider, htopic,
    ScopeKind.isInt32_code, hkey.target, hkey.scope, TargetKind.storable_name, hcode, Cell.isNull,
    SettingRow.record]

/-- Preferences clash exactly if they have the same key. -/
theorem clash_setting (row other : SettingRow) :
    settingTable.clash row.record other.record = (row.key == other.key) := by
  rw [← Key.beq_parts]
  simp [Table.clash, settingTable, keyColumns, KeyPart.cell, SettingRow.record]

/-- A preference of the same key is overwritten, or was the same before. -/
theorem overwritten_setting {row old : SettingRow} (hkey : old.key = row.key) :
    Table.overwritten "value" row.record old.record = row.record := by
  obtain ⟨key, choice⟩ := row
  obtain ⟨key', choice'⟩ := old
  obtain rfl : key' = key := hkey
  have hsame : (Cell.integer choice'.code).notDistinct (.integer choice.code) =
      decide (choice' = choice) := by
    rw [Bool.eq_iff_iff, decide_eq_true_iff]
    exact beq_iff_eq.trans ⟨congrArg Choice.mk, congrArg Choice.code⟩
  rcases eq_or_ne choice' choice with rfl | hchoice
  · simp [Table.overwritten, SettingRow.record, hsame]
  · simp [Table.overwritten, SettingRow.record, hsame, hchoice, Assoc.put]

theorem upsertSetting (h : Mirrors contents a b)
    (ha : Keyed (fun row : SettingRow => row.key.rowName) a)
    (hplain : ∀ row ∈ rows a, row.key.Plain) (row : SettingRow) (hkey : row.key.Plain)
    (hstorable : row.key.Storable) (hchoice : row.choice ∈ Choice.all) :
    ∃ m, (Statement.upsertSetting row.key row.choice).meaning? contents = some m ∧
      Mirrors m.after (a.put row.key.rowName row) b := by
  have hname : ∀ old ∈ rows a, old.key.rowName = row.key.rowName → old.key = row.key :=
    fun old hold => Key.eq_of_rowName_of_plain (hplain old hold) hkey
  have hholds : Holds SettingRow.record (a.put row.key.rowName row)
      (settingTable.upserted "value" row.record (contents settingTable.name)) := by
    refine h.settings.upserted ha ?_ fun old hold h => overwritten_setting (hname old hold h)
    intro old hold
    rw [clash_setting, Bool.eq_iff_iff, beq_iff_eq, decide_eq_true_iff]
    exact ⟨fun hsame => hsame ▸ rfl, fun hsame => (hname old hold hsame).symm⟩
  have hmeaning : (Statement.upsertSetting row.key row.choice).meaning? contents =
      some ⟨[], none, Function.update contents settingTable.name
        (settingTable.upserted "value" row.record (contents settingTable.name))⟩ := by
    have hvalue : settingTable.type? "value" ≠ some .jsonb := by decide
    have hparams : (Statement.upsertSetting row.key row.choice).params =
        row.key.params ++ [.number row.choice.code] := rfl
    simp only [Statement.meaning?, Statement.command, Command.meaning?, if_neg hvalue, hparams,
      record?_setting hstorable hchoice, Option.map_some]
  exact ⟨_, hmeaning, h.setSettings hholds⟩

theorem deleteSetting (h : Mirrors contents a b)
    (ha : Keyed (fun row : SettingRow => row.key.rowName) a)
    (hplain : ∀ row ∈ rows a, row.key.Plain) {key : Key} (hkey : key.Plain)
    (hstorable : key.Storable) :
    ∃ m, (Statement.deleteSetting key).meaning? contents = some m ∧
      Mirrors m.after (a.drop key.rowName) b := by
  obtain ⟨left, hmeaning, hleft⟩ := h.settings.delete (asks_key hstorable)
  rw [ha.filter_eq_drop (·.key == key)] at hleft
  · exact ⟨_, hmeaning, h.setSettings hleft⟩
  · intro row hrow
    rw [beq_iff_eq]
    exact ⟨fun hsame => hsame ▸ rfl, Key.eq_of_rowName_of_plain (hplain row hrow) hkey⟩

theorem deleteSettingsOf (h : Mirrors contents a b) (target : Target)
    (htarget : Storable target.id) {topics : Topics} (htopics : topics.Known) :
    ∃ m, (Statement.deleteSettingsOf target topics).meaning? contents = some m ∧
      Mirrors m.after
        (a.filter fun (_, row) => !(row.key.target == target && topics.includes row.key.topic))
        b := by
  cases topics with
  | every =>
      obtain ⟨left, hmeaning, hleft⟩ := h.settings.delete (asks_target htarget)
      refine ⟨_, hmeaning, h.setSettings ?_⟩
      simpa only [Topics.includes, Bool.and_true] using hleft
  | one topic =>
      obtain ⟨left, hmeaning, hleft⟩ := h.settings.delete (asks_targetTopic htarget htopics)
      exact ⟨_, hmeaning, h.setSettings hleft⟩
  | none =>
      obtain ⟨left, hmeaning, hleft⟩ := h.settings.delete (asks_targetNone htarget)
      refine ⟨_, hmeaning, h.setSettings ?_⟩
      simpa only [Topics.includes, Bool.and_false] using hleft

theorem deleteOption (h : Mirrors contents a b)
    (hb : Keyed (fun row : OptionRow => row.key.rowName) b)
    (hplain : ∀ row ∈ rows b, row.key.Plain) {o : OptionKey} (ho : o.Plain)
    (hstorable : o.Storable) :
    ∃ m, (Statement.deleteOption o).meaning? contents = some m ∧
      Mirrors m.after a (b.drop o.rowName) := by
  obtain ⟨left, hmeaning, hleft⟩ := h.options.delete (asks_optionKey hstorable)
  rw [hb.filter_eq_drop (·.key == o)] at hleft
  · exact ⟨_, hmeaning, h.setOptions hleft⟩
  · intro row hrow
    rw [beq_iff_eq]
    exact ⟨fun hsame => hsame ▸ rfl, OptionKey.eq_of_rowName (hplain row hrow) ho⟩

theorem deleteOptionsOf (h : Mirrors contents a b) {user : String} (huser : Storable user)
    {keys : List String} (hkeys : ∀ key ∈ keys, Storable key) :
    ∃ m, (Statement.deleteOptionsOf user keys).meaning? contents = some m ∧
      Mirrors m.after a
        (b.filter fun (_, row) => !(row.key.user == user && keys.contains row.key.key)) := by
  obtain ⟨left, hmeaning, hleft⟩ := h.options.delete (asks_optionsOf huser hkeys)
  exact ⟨_, hmeaning, h.setOptions hleft⟩

/-- The record of a new option is made of the parameters. -/
theorem record?_option {o : OptionRow} (hkey : o.key.Storable) (hvalue : o.value.Storable) :
    optionTable.record? optionColumns (o.key.params ++ [.text o.value.value.json]) =
      some o.record := by
  have hdocument : Cell.ofValue? .jsonb (.text o.value.value.json) =
    some (.document o.value.value) := hvalue
  simp [Table.record?, Table.cells?, optionColumns, OptionKey.params, optionTable, hkey.user,
    ofValue?_ofText? hkey.project, ofValue?_ofText? hkey.organization, hkey.key, hdocument,
    Cell.isNull, OptionRow.record]

/-- A missing part counts as the empty text in the key of the table, as it does in a name. -/
theorem rowName_of_clash {row other : OptionRow}
    (h : optionTable.clash row.record other.record = true) :
    row.key.rowName = other.key.rowName := by
  have horEmpty (s : Option String) : (cellOfText? s).orEmpty = .text (s.getD "") := by
    cases s <;> rfl
  have hparts : row.key.user = other.key.user ∧
      row.key.project.getD "" = other.key.project.getD "" ∧
      row.key.organization.getD "" = other.key.organization.getD "" ∧
      row.key.key = other.key.key := by
    simpa [Table.clash, optionTable, KeyPart.cell, OptionRow.record, horEmpty] using h
  obtain ⟨huser, hproject, horganization, hkey⟩ := hparts
  simp only [OptionKey.rowName, huser, hproject, horganization, hkey]

/-- An option under a new name is inserted. -/
theorem insertOption (h : Mirrors contents a b)
    (hb : Keyed (fun row : OptionRow => row.key.rowName) b) {o : OptionRow}
    (hname : o.key.rowName ∉ names b) (hstorable : o.key.Storable) (hvalue : o.value.Storable) :
    ∃ m, (Statement.insertOption o.key o.value).meaning? contents = some m ∧
      Mirrors m.after a (b.put o.key.rowName o) := by
  have hnew : (contents optionTable.name).any (optionTable.clash o.record) = false := by
    rw [List.any_eq_false]
    intro record hrecord hclash
    obtain ⟨row, hrow, rfl⟩ := h.options.mem_iff.mp hrecord
    rw [hb.names_eq, rowName_of_clash hclash] at hname
    exact hname (List.mem_map_of_mem hrow)
  have hmeaning : (Statement.insertOption o.key o.value).meaning? contents =
      some ⟨[], none, Function.update contents optionTable.name
        (contents optionTable.name ++ [o.record])⟩ := by
    have hparams : (Statement.insertOption o.key o.value).params =
        o.key.params ++ [.text o.value.value.json] := rfl
    simp only [Statement.meaning?, Statement.command, Command.meaning?, hparams,
      record?_option hstorable hvalue, Option.bind_some, hnew, Bool.false_eq_true, if_false]
  exact ⟨_, hmeaning, h.setOptions (h.options.append hname o)⟩

end Mirrors

end AlertRelay.Preference
