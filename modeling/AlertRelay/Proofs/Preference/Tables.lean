import AlertRelay.Proofs.Preference.OptionKeys
import AlertRelay.Proofs.Preference.Rows

/-!
What calls do to the rows of a store.

A store is `Sound` if its rows stand under their names and have plain keys.  In a sound store a
deed takes away the rows that it touches and leaves at most one row of its own behind, in the
table of preferences (`Deed.mem_settings`) and in that of options (`Deed.mem_options`); and the
store is sound afterwards (`Change.sound_after`).
-/

namespace AlertRelay.Preference

open Assoc (Keyed rows)

/-- The identities among coordinates. -/
def Coordinates.ids (c : Coordinates) : List String :=
  c.user.toList ++ c.team.toList ++ c.project.toList ++ c.organization.toList

/-- Coordinates whose identities may all be parts of names. -/
def Coordinates.Plain (c : Coordinates) : Prop :=
  ∀ id ∈ c.ids, PlainId id

instance (c : Coordinates) : Decidable c.Plain :=
  inferInstanceAs (Decidable (∀ id ∈ c.ids, PlainId id))

/-- A call about a provider and a topic that there are, with plain coordinates. -/
def Change.Plain : Change → Prop
  | .set provider topic _ c => provider ∈ Provider.all ∧ topic ∈ Topic.all ∧ c.Plain
  | .remove provider topic c => provider ∈ Provider.all ∧ topic ∈ Topic.all ∧ c.Plain
  | .erase _ _ => True

instance : DecidablePred Change.Plain
  | .set .. => inferInstanceAs (Decidable (_ ∧ _ ∧ _))
  | .remove .. => inferInstanceAs (Decidable (_ ∧ _ ∧ _))
  | .erase .. => inferInstanceAs (Decidable True)

/-- A deed about a plain key, with a choice that can be made. -/
def Deed.Plain : Deed → Prop
  | .put key choice => key.Plain ∧ key.topic.allows choice = true
  | .drop key => key.Plain
  | .erase _ _ => True

/-- A deed with a choice that can be made, if it has one. -/
def Deed.Allowed : Deed → Prop
  | .put key choice => key.topic.allows choice = true
  | .drop _ => True
  | .erase _ _ => True

theorem Deed.Plain.allowed {d : Deed} (hd : d.Plain) : d.Allowed := by
  cases d with
  | put key choice => exact hd.2
  | drop key => trivial
  | erase user topics => trivial

/-- A choice that can be made is a choice. -/
theorem Topic.ne_inherit_of_allows {t : Topic} {choice : Choice}
    (h : t.allows choice = true) : choice ≠ .inherit := by
  rintro rfl
  have halways : Choice.inherit ≠ .always := by decide +kernel
  have hnever : Choice.inherit ≠ .never := by decide +kernel
  have hsubscribe : Choice.inherit ≠ .subscribeOnly := by decide +kernel
  have hcommitted : Choice.inherit ≠ .committedOnly := by decide +kernel
  simp only [allows, optionText?, if_neg halways, if_neg hnever, if_neg hsubscribe,
    if_neg hcommitted, ite_self, Option.isSome_none, Bool.false_eq_true] at h

/-- The key that plain coordinates name is plain. -/
theorem Coordinates.key_plain {c : Coordinates} (hc : c.Plain) {provider : Provider}
    {topic : Topic} (hprovider : provider ∈ Provider.all) (htopic : topic ∈ Topic.all)
    {k : Key} (h : c.key provider topic = .ok k) : k.Plain := by
  obtain ⟨user, team, project, organization⟩ := c
  cases user <;> cases team <;> cases project <;> cases organization <;>
    simp only [key, target, scope, reduceCtorEq, Except.ok.injEq] at h <;> subst h <;>
    refine ⟨hprovider, htopic, hc _ ?_, hc _ ?_, ?_⟩ <;> simp [ids]

theorem Change.deed_plain {ch : Change} (hch : ch.Plain) {d : Deed} (h : ch.deed = .ok d) :
    d.Plain := by
  rcases deed_cases h with ⟨provider, topic, choice, c, k, rfl, hkey, hallows, rfl⟩ |
      ⟨provider, topic, c, k, rfl | rfl, hkey, rfl⟩ | ⟨user, topics, rfl, rfl⟩
  · obtain ⟨hprovider, htopic, hc⟩ := hch
    obtain ⟨_, rfl, _⟩ := Coordinates.of_key hkey
    exact ⟨Coordinates.key_plain hc hprovider htopic hkey, hallows⟩
  · obtain ⟨hprovider, htopic, hc⟩ := hch
    exact Coordinates.key_plain hc hprovider htopic hkey
  · obtain ⟨hprovider, htopic, hc⟩ := hch
    exact Coordinates.key_plain hc hprovider htopic hkey
  · trivial

@[simp] theorem Coordinates.optionKey?_none (c : Coordinates) : c.optionKey? none = none := by
  unfold optionKey?
  cases c.user <;> rfl

/-- The option of a choice that can be made has the option key of its preference. -/
theorem SettingRow.option?_map_key {row : SettingRow}
    (hallows : row.key.topic.allows row.choice = true) :
    row.option?.map (·.key) = row.key.optionKey? := by
  have hname := Topic.option?_map_fst hallows row.key.coordinates.project.isSome
  unfold option? Key.optionKey?
  rw [← hname]
  cases row.key.topic.option? row.choice row.key.coordinates.project.isSome with
  | none => simp
  | some kept =>
      simp only [Option.map_some]
      cases row.key.coordinates.optionKey? (some kept.1) <;> rfl

/-- The option key of a plain preference is plain, and names an organization only outside of
projects. -/
theorem Key.optionKey?_plain {k : Key} (hk : k.Plain) {o : OptionKey}
    (h : k.optionKey? = some o) : o.Plain ∧ (o.project.isSome → o.organization = none) := by
  obtain ⟨htarget, htopic, _⟩ := of_optionKey?_eq_some hk.own h
  have huser : k.coordinates.user = some k.target.id := by simp [coordinates, htarget]
  obtain ⟨key, _, rfl⟩ := (Coordinates.optionKey?_eq_some huser).mp h
  refine ⟨⟨hk.target, ?_, ?_, (Topic.mem_all_of_optionKeyFor? htopic).2⟩, ?_⟩
  · intro id hid
    simp only [coordinates, Option.ite_none_right_eq_some, Option.some.injEq] at hid
    exact hid.2 ▸ hk.scope
  · intro id hid
    split at hid
    · cases hid
    · simp only [coordinates, Option.ite_none_right_eq_some, Option.some.injEq] at hid
      exact hid.2 ▸ hk.scope
  · intro hproject
    exact if_pos hproject

/-- The rows of a store stand under their names, none of them twice, and have plain keys and
choices that can be made. -/
structure MemoryStore.Sound (s : MemoryStore) : Prop where
  settings : Keyed (fun row : SettingRow => row.key.rowName) s.settings
  plain : ∀ row ∈ rows s.settings, row.key.Plain
  allowed : ∀ row ∈ rows s.settings, row.key.topic.allows row.choice = true
  options : Keyed (fun row : OptionRow => row.key.rowName) s.options
  plainOptions : ∀ row ∈ rows s.options, row.key.Plain

theorem MemoryStore.sound_of_nil {s : MemoryStore} (hsettings : s.settings = [])
    (hoptions : s.options = []) : s.Sound where
  settings := hsettings ▸ Assoc.keyed_nil
  plain := by
    rw [hsettings]
    exact fun row hrow => absurd hrow List.not_mem_nil
  allowed := by
    rw [hsettings]
    exact fun row hrow => absurd hrow List.not_mem_nil
  options := hoptions ▸ Assoc.keyed_nil
  plainOptions := by
    rw [hoptions]
    exact fun row hrow => absurd hrow List.not_mem_nil

/-- A look-up finds the choice of the row with the key, if there is one. -/
theorem MemoryStore.Sound.choice?_eq_some_iff {s : MemoryStore} (hs : s.Sound) {k : Key}
    (hprovider : k.provider ∈ Provider.all) (htopic : k.topic ∈ Topic.all) {choice : Choice} :
    s.choice? k = some choice ↔ ⟨k, choice⟩ ∈ rows s.settings := by
  unfold MemoryStore.choice?
  rw [Option.map_eq_some_iff]
  constructor
  · rintro ⟨row, hget, rfl⟩
    obtain ⟨hrow, hname⟩ := hs.settings.get?_eq_some_iff.mp hget
    obtain rfl := Key.eq_of_rowName (hs.plain row hrow) hprovider htopic hname
    exact hrow
  · intro hrow
    exact ⟨⟨k, choice⟩, hs.settings.get?_eq_some_iff.mpr ⟨hrow, rfl⟩, rfl⟩

/-- A choice is stored exactly if it is in force and is not to inherit. -/
theorem MemoryStore.Sound.choice?_eq_some_iff_getD {s : MemoryStore} (hs : s.Sound) {k : Key}
    (hprovider : k.provider ∈ Provider.all) (htopic : k.topic ∈ Topic.all) {choice : Choice} :
    s.choice? k = some choice ↔
      choice ≠ .inherit ∧ (s.choice? k).getD .inherit = choice := by
  constructor
  · intro hchoice
    have hrow := (hs.choice?_eq_some_iff hprovider htopic).mp hchoice
    exact ⟨Topic.ne_inherit_of_allows (hs.allowed _ hrow), by rw [hchoice, Option.getD_some]⟩
  · rintro ⟨hne, hgetD⟩
    cases hchoice : s.choice? k with
    | none => exact absurd (by rw [← hgetD, hchoice, Option.getD_none]) hne
    | some other => rw [← hgetD, hchoice, Option.getD_some]

namespace Deed

/-- Whether a deed touches a preference. -/
def Touches : Deed → Key → Prop
  | .put key _, other => other = key
  | .drop key, other => other = key
  | .erase user topics, other =>
    other.target = ⟨.user, user⟩ ∧ topics.includes other.topic = true

/-- Whether a deed touches an option. -/
def TouchesOption : Deed → OptionKey → Prop
  | .put key _, o => key.optionKey? = some o
  | .drop key, o => key.optionKey? = some o
  | .erase user topics, o => o.user = user ∧ o.key ∈ topics.optionKeys

/-- Whether a deed writes under the name of a preference. -/
def Names : Deed → SettingRow → Prop
  | .put key _, row => row.key.rowName = key.rowName
  | .drop key, row => row.key.rowName = key.rowName
  | .erase user topics, row =>
    row.key.target = ⟨.user, user⟩ ∧ topics.includes row.key.topic = true

/-- Whether a deed writes under the name of an option. -/
def NamesOption : Deed → OptionRow → Prop
  | .put key _, row => ∃ o, key.optionKey? = some o ∧ row.key.rowName = o.rowName
  | .drop key, row => ∃ o, key.optionKey? = some o ∧ row.key.rowName = o.rowName
  | .erase user topics, row => row.key.user = user ∧ row.key.key ∈ topics.optionKeys

/-- The preference that a deed leaves behind. -/
def row? : Deed → Option SettingRow
  | .put key choice => some ⟨key, choice⟩
  | .drop _ => none
  | .erase _ _ => none

/-- The option that a deed leaves behind. -/
def option? (d : Deed) : Option OptionRow :=
  d.row?.bind SettingRow.option?

/-- The table of preferences after a deed. -/
def settings : Deed → Assoc SettingRow → Assoc SettingRow
  | .put key choice, a => a.put key.rowName ⟨key, choice⟩
  | .drop key, a => a.drop key.rowName
  | .erase user topics, a =>
    a.filter fun (_, row) => !(row.key.target == ⟨.user, user⟩ && topics.includes row.key.topic)

/-- The table of options after a deed. -/
def options : Deed → Assoc OptionRow → Assoc OptionRow
  | .put key choice, a =>
    match SettingRow.option? ⟨key, choice⟩ with
    | some o => a.put o.key.rowName o
    | none => a
  | .drop key, a =>
    match key.optionKey? with
    | some o => a.drop o.rowName
    | none => a
  | .erase user topics, a =>
    a.filter fun (_, row) => !(row.key.user == user && topics.optionKeys.contains row.key.key)

/-- The store after a deed. -/
def done (s : MemoryStore) (d : Deed) : MemoryStore where
  settings := d.settings s.settings
  options := d.options s.options
  transactions := s.transactions + 1
  refuses := s.refuses

theorem foldl_writes (s : MemoryStore) (d : Deed) :
    d.writes.foldl MemoryStore.apply { s with transactions := s.transactions + 1 } =
      d.done s := by
  cases d with
  | erase user topics => rfl
  | put key choice =>
      simp only [writes, done, settings, options]
      cases SettingRow.option? ⟨key, choice⟩ <;> rfl
  | drop key =>
      simp only [writes, done, settings, options]
      cases key.optionKey? <;> rfl

end Deed

namespace MemoryStore

@[simp] theorem apply_refuses (s : MemoryStore) (w : Write) : (s.apply w).refuses = s.refuses := by
  cases w <;> rfl

/-- Either all writes are made, or one that the store refuses is found. -/
theorem applyAll_cases (s : MemoryStore) (writes : List Write) :
    s.applyAll writes = .ok (writes.foldl apply s) ∨
      ∃ name, s.refuses = some name ∧ s.applyAll writes = .error name := by
  induction writes generalizing s with
  | nil => exact Or.inl rfl
  | cons w rest ih =>
      by_cases hrefused : s.refuses = some w.name
      · exact Or.inr ⟨w.name, hrefused, if_pos hrefused⟩
      · simp only [applyAll, if_neg hrefused, List.foldl_cons]
        rw [← apply_refuses s w]
        exact ih (s.apply w)

end MemoryStore

/-- A call does its deed, or is refused, or the store refuses one of its writes. -/
theorem Change.after_cases (s : MemoryStore) (ch : Change) :
    (∃ d, ch.deed = .ok d ∧ ch.result s = .ok () ∧ ch.after s = d.done s) ∨
    (∃ refusal, ch.deed = .error refusal ∧ ch.result s = .error (.refused refusal) ∧
      ch.after s = s) ∨
    (∃ name, s.refuses = some name ∧ ch.result s = .error (.writeRefused name) ∧
      ch.after s = { s with transactions := s.transactions + 1 }) := by
  unfold result after
  cases ch.deed with
  | error refusal => exact Or.inr (Or.inl ⟨refusal, rfl, rfl, rfl⟩)
  | ok d =>
      have hdone := Deed.foldl_writes s d
      simp only [MemoryStore.transact]
      rcases MemoryStore.applyAll_cases { s with transactions := s.transactions + 1 } d.writes
        with happlied | ⟨name, hrefuses, hfailed⟩
      · rw [happlied, hdone]
        exact Or.inl ⟨d, rfl, rfl, rfl⟩
      · rw [hfailed]
        exact Or.inr (Or.inr ⟨name, hrefuses, rfl, rfl⟩)

/-- No call changes what the store refuses. -/
theorem Change.after_refuses (s : MemoryStore) (ch : Change) :
    (ch.after s).refuses = s.refuses := by
  rcases ch.after_cases s with ⟨d, _, _, hafter⟩ | ⟨_, _, _, hafter⟩ | ⟨_, _, _, hafter⟩
  · rw [hafter]
    rfl
  · rw [hafter]
  · rw [hafter]

namespace Deed

variable {s : MemoryStore} {d : Deed}

/-- The preferences after a deed: what it leaves behind, and what has none of its names. -/
theorem mem_rows_settings {a : Assoc SettingRow}
    (ha : Keyed (fun row : SettingRow => row.key.rowName) a) {row : SettingRow} :
    row ∈ rows (d.settings a) ↔ d.row? = some row ∨ (row ∈ rows a ∧ ¬ d.Names row) := by
  cases d with
  | put key choice =>
      rw [settings, ha.mem_rows_put (v := ⟨key, choice⟩)]
      simp only [row?, Names, Option.some.injEq, eq_comm (a := row), ne_eq]
  | drop key =>
      rw [settings, ha.mem_rows_drop]
      simp only [row?, Names, reduceCtorEq, false_or, ne_eq]
  | erase user topics =>
      rw [settings, Assoc.mem_rows_filter (fun row : SettingRow =>
        !(row.key.target == ⟨.user, user⟩ && topics.includes row.key.topic))]
      simp [row?, Names, imp_iff_not_or]

/-- The options after a deed: what it leaves behind, and what has none of its names. -/
theorem mem_rows_options {a : Assoc OptionRow}
    (ha : Keyed (fun row : OptionRow => row.key.rowName) a) (hd : d.Allowed) {row : OptionRow} :
    row ∈ rows (d.options a) ↔ d.option? = some row ∨ (row ∈ rows a ∧ ¬ d.NamesOption row) := by
  cases d with
  | put key choice =>
      have hkey : (SettingRow.option? ⟨key, choice⟩).map (·.key) = key.optionKey? :=
        SettingRow.option?_map_key hd
      simp only [options, option?, row?, Option.bind_some, NamesOption, ← hkey]
      cases SettingRow.option? ⟨key, choice⟩ with
      | none => simp
      | some o =>
          rw [ha.mem_rows_put]
          simp [eq_comm (a := row)]
  | drop key =>
      simp only [options, option?, row?, Option.bind_none, NamesOption, reduceCtorEq, false_or]
      cases key.optionKey? with
      | none => simp
      | some o =>
          rw [ha.mem_rows_drop]
          simp
  | erase user topics =>
      rw [options, Assoc.mem_rows_filter (fun row : OptionRow =>
        !(row.key.user == user && topics.optionKeys.contains row.key.key))]
      simp [option?, row?, NamesOption, imp_iff_not_or]

/-- Among plain keys the names of a deed are those of what it touches. -/
theorem names_iff (hd : d.Plain) {row : SettingRow} (hrow : row.key.Plain) :
    d.Names row ↔ d.Touches row.key := by
  cases d with
  | put key choice => exact ⟨Key.eq_of_rowName_of_plain hrow hd.1, fun h => h ▸ rfl⟩
  | drop key => exact ⟨Key.eq_of_rowName_of_plain hrow hd, fun h => h ▸ rfl⟩
  | erase user topics => exact Iff.rfl

theorem namesOption_iff (hd : d.Plain) {row : OptionRow} (hrow : row.key.Plain) :
    d.NamesOption row ↔ d.TouchesOption row.key := by
  have hsame : ∀ {key : Key}, key.Plain →
      ((∃ o, key.optionKey? = some o ∧ row.key.rowName = o.rowName) ↔
        key.optionKey? = some row.key) := by
    intro key hkey
    constructor
    · rintro ⟨o, ho, hname⟩
      rw [ho, OptionKey.eq_of_rowName hrow (Key.optionKey?_plain hkey ho).1 hname]
    · intro ho
      exact ⟨row.key, ho, rfl⟩
  cases d with
  | put key choice => exact hsame hd.1
  | drop key => exact hsame hd
  | erase user topics => exact Iff.rfl

/-- The preferences after a plain deed: what it leaves behind, and what it does not touch. -/
theorem mem_settings (hs : s.Sound) (hd : d.Plain) {row : SettingRow} :
    row ∈ rows (d.settings s.settings) ↔
      d.row? = some row ∨ (row ∈ rows s.settings ∧ ¬ d.Touches row.key) := by
  rw [mem_rows_settings hs.settings]
  exact or_congr_right (and_congr_right fun hrow => not_congr (names_iff hd (hs.plain row hrow)))

/-- The options after a plain deed: what it leaves behind, and what it does not touch. -/
theorem mem_options (hs : s.Sound) (hd : d.Plain) {row : OptionRow} :
    row ∈ rows (d.options s.options) ↔
      d.option? = some row ∨ (row ∈ rows s.options ∧ ¬ d.TouchesOption row.key) := by
  rw [mem_rows_options hs.options hd.allowed]
  exact or_congr_right (and_congr_right fun hrow =>
    not_congr (namesOption_iff hd (hs.plainOptions row hrow)))

/-- What a plain deed leaves behind is plain and can be chosen. -/
theorem row?_plain (hd : d.Plain) {row : SettingRow} (h : d.row? = some row) :
    row.key.Plain ∧ row.key.topic.allows row.choice = true := by
  cases d with
  | put key choice => cases h; exact hd
  | drop key => cases h
  | erase user topics => cases h

theorem option?_plain (hd : d.Plain) {o : OptionRow} (h : d.option? = some o) : o.key.Plain := by
  obtain ⟨row, hrow, hoption⟩ := Option.bind_eq_some_iff.mp h
  obtain ⟨hplain, hallows⟩ := row?_plain hd hrow
  have hkey := SettingRow.option?_map_key hallows
  rw [hoption] at hkey
  exact (Key.optionKey?_plain hplain hkey.symm).1

theorem settings_keyed {a : Assoc SettingRow}
    (ha : Keyed (fun row : SettingRow => row.key.rowName) a) :
    Keyed (fun row : SettingRow => row.key.rowName) (d.settings a) := by
  cases d with
  | put key choice => exact ha.put ⟨key, choice⟩
  | drop key => exact ha.drop _
  | erase user topics => exact ha.filter _

theorem options_keyed {a : Assoc OptionRow}
    (ha : Keyed (fun row : OptionRow => row.key.rowName) a) :
    Keyed (fun row : OptionRow => row.key.rowName) (d.options a) := by
  cases d with
  | put key choice =>
      simp only [options]
      cases SettingRow.option? ⟨key, choice⟩ with
      | none => exact ha
      | some o => exact ha.put o
  | drop key =>
      simp only [options]
      cases key.optionKey? with
      | none => exact ha
      | some o => exact ha.drop _
  | erase user topics => exact ha.filter _

theorem sound_done (hs : s.Sound) (hd : d.Plain) : (d.done s).Sound where
  settings := settings_keyed hs.settings
  plain := by
    intro row hrow
    rcases (mem_settings hs hd).mp hrow with hnew | ⟨hold, _⟩
    · exact (row?_plain hd hnew).1
    · exact hs.plain row hold
  allowed := by
    intro row hrow
    rcases (mem_settings hs hd).mp hrow with hnew | ⟨hold, _⟩
    · exact (row?_plain hd hnew).2
    · exact hs.allowed row hold
  options := options_keyed hs.options
  plainOptions := by
    intro row hrow
    rcases (mem_options hs hd).mp hrow with hnew | ⟨hold, _⟩
    · exact option?_plain hd hnew
    · exact hs.plainOptions row hold

end Deed

/-- Plain calls leave a sound store sound, whatever comes of them. -/
theorem Change.sound_after {s : MemoryStore} (hs : s.Sound) {ch : Change} (hch : ch.Plain) :
    (ch.after s).Sound := by
  rcases ch.after_cases s with ⟨d, hdeed, _, hafter⟩ | ⟨_, _, _, hafter⟩ | ⟨_, _, _, hafter⟩
  · rw [hafter]
    exact Deed.sound_done hs (Change.deed_plain hch hdeed)
  · rw [hafter]
    exact hs
  · rw [hafter]
    exact ⟨hs.settings, hs.plain, hs.allowed, hs.options, hs.plainOptions⟩

end AlertRelay.Preference
