import AlertRelay.Proofs.Preference.OptionValues
import AlertRelay.Proofs.Preference.Tables

/-!
Options as the counterparts of preferences.

As long as all calls are about one provider, the options in memory are the older forms of the
preferences of users, one for one (`MemoryStore.Matched`), and whoever asks for the options of
users about a topic in a project is told what choices are in force there
(`options_of_choices`).
-/

namespace AlertRelay.Preference

open Assoc (rows names)

/-- A call about the preferences from one provider, or an erasure. -/
def Change.About (provider : Provider) : Change → Prop
  | .set other _ _ _ => other = provider
  | .remove other _ _ => other = provider
  | .erase _ _ => True

instance (provider : Provider) : DecidablePred (Change.About provider)
  | .set .. => inferInstanceAs (Decidable (_ = _))
  | .remove .. => inferInstanceAs (Decidable (_ = _))
  | .erase .. => inferInstanceAs (Decidable True)

/-- A deed about a key of one provider, or an erasure. -/
def Deed.About (provider : Provider) : Deed → Prop
  | .put key _ => key.provider = provider
  | .drop key => key.provider = provider
  | .erase _ _ => True

theorem Change.deed_about {provider : Provider} {ch : Change} (hch : ch.About provider)
    {d : Deed} (h : ch.deed = .ok d) : d.About provider := by
  rcases deed_cases h with ⟨_, topic, choice, c, k, rfl, hkey, _, rfl⟩ |
      ⟨_, topic, c, k, rfl | rfl, hkey, rfl⟩ | ⟨user, topics, rfl, rfl⟩
  · exact (Coordinates.of_key hkey).1.trans hch
  · exact (Coordinates.of_key hkey).1.trans hch
  · exact (Coordinates.of_key hkey).1.trans hch
  · trivial

/-- A topic about which a choice can be made has an option key. -/
theorem Topic.optionKeyFor?_of_allows {t : Topic} {choice : Choice}
    (h : t.allows choice = true) (inProject : Bool) : (t.optionKeyFor? inProject).isSome := by
  rw [isSome_optionKeyFor?]
  by_cases hdeploy : t = deploy
  · simp only [optionKey?, if_pos hdeploy, Option.isSome_some]
  · by_cases hissue : t = issueAlerts
    · simp only [optionKey?, if_neg hdeploy, if_pos hissue, Option.isSome_some]
    · by_cases hworkflow : t = workflow
      · simp only [optionKey?, if_neg hdeploy, if_neg hissue, if_pos hworkflow,
          Option.isSome_some]
      · simp only [allows, optionText?, if_neg hdeploy, if_neg hissue, if_neg hworkflow,
          Option.isSome_none, Bool.false_eq_true] at h

namespace SettingRow

variable {row : SettingRow}

/-- Exactly the preferences of users have options. -/
theorem option?_isSome_iff (hallows : row.key.topic.allows row.choice = true) :
    row.option?.isSome ↔ row.key.target.kind = .user := by
  rw [← Option.isSome_map, option?_map_key hallows]
  obtain ⟨name, hname⟩ := Option.isSome_iff_exists.mp
    (Topic.optionKeyFor?_of_allows hallows row.key.coordinates.project.isSome)
  rw [Key.optionKey?, hname]
  cases hkind : row.key.target.kind <;>
    simp [Coordinates.optionKey?, Key.coordinates, hkind]

/-- An option stands for a choice with the option key and the value that the choice has. -/
theorem option?_eq_some_iff {o : OptionRow} :
    row.option? = some o ↔
      ∃ name, row.key.topic.option? row.choice row.key.coordinates.project.isSome =
        some (name, o.value) ∧ row.key.coordinates.optionKey? (some name) = some o.key := by
  unfold option?
  cases row.key.topic.option? row.choice row.key.coordinates.project.isSome with
  | none => simp
  | some kept =>
      obtain ⟨name, value⟩ := kept
      obtain ⟨key', value'⟩ := o
      simp only [Option.map_some, Option.some.injEq, Prod.mk.injEq]
      cases hkey : row.key.coordinates.optionKey? (some name) with
      | none =>
          constructor
          · intro h
            cases h
          · rintro ⟨_, ⟨rfl, _⟩, hother⟩
            rw [hkey] at hother
            cases hother
      | some key =>
          constructor
          · intro h
            cases h
            exact ⟨name, ⟨rfl, rfl⟩, hkey⟩
          · rintro ⟨_, ⟨rfl, rfl⟩, hother⟩
            rw [hkey] at hother
            cases hother
            rfl

theorem optionKey?_of_option? (hallows : row.key.topic.allows row.choice = true) {o : OptionRow}
    (h : row.option? = some o) : row.key.optionKey? = some o.key := by
  rw [← option?_map_key hallows, h]
  rfl

end SettingRow

/-- A deed touches a preference exactly if it touches the option that stands for it, as long as
both are about one provider. -/
theorem Deed.touches_iff {provider : Provider} {d : Deed} (hd : d.Plain)
    (habout : d.About provider) {k : Key} (hk : k.Plain) (hprovider : k.provider = provider)
    {o : OptionKey} (ho : k.optionKey? = some o) : d.Touches k ↔ d.TouchesOption o := by
  have hsame : ∀ {key : Key}, key.Plain → key.provider = provider →
      (k = key ↔ key.optionKey? = some o) := by
    intro key hkey hkeyProvider
    constructor
    · rintro rfl
      exact ho
    · intro hkeyOption
      exact Key.eq_of_optionKey? hk.own hkey.own (hprovider.trans hkeyProvider.symm) ho hkeyOption
  cases d with
  | put key choice => exact hsame hd.1 habout
  | drop key => exact hsame hd habout
  | erase user topics =>
      obtain ⟨htarget, htopic, _⟩ := Key.of_optionKey?_eq_some hk.own ho
      simp only [Touches, TouchesOption, htarget, Topics.mem_optionKeys_iff htopic,
        Target.mk.injEq, true_and]

/-- All rows are about one provider, and the options are those that stand for the preferences. -/
structure MemoryStore.Paired (provider : Provider) (s : MemoryStore) : Prop where
  sound : s.Sound
  provider : ∀ row ∈ rows s.settings, row.key.provider = provider
  options_iff : ∀ o, o ∈ rows s.options ↔ ∃ row ∈ rows s.settings, row.option? = some o

namespace MemoryStore.Paired

variable {provider : Provider} {s : MemoryStore}

/-- What a deed takes away and leaves behind stays paired. -/
theorem done (h : s.Paired provider) {d : Deed} (hd : d.Plain) (habout : d.About provider) :
    (d.done s).Paired provider where
  sound := Deed.sound_done h.sound hd
  provider := by
    intro row hrow
    rcases (Deed.mem_settings h.sound hd).mp hrow with hnew | ⟨hold, _⟩
    · cases d with
      | put key choice => cases hnew; exact habout
      | drop key => cases hnew
      | erase user topics => cases hnew
    · exact h.provider row hold
  options_iff := by
    intro o
    -- A deed takes a preference and its option away together, or neither of them.
    have htouches : ∀ row ∈ rows s.settings, row.option? = some o →
        (d.Touches row.key ↔ d.TouchesOption o.key) := fun row hrow hoption =>
      Deed.touches_iff hd habout (h.sound.plain row hrow) (h.provider row hrow)
        (SettingRow.optionKey?_of_option? (h.sound.allowed row hrow) hoption)
    refine (Deed.mem_options h.sound hd).trans ⟨?_, ?_⟩
    · rintro (hnew | ⟨hold, huntouched⟩)
      · obtain ⟨row, hrow, hoption⟩ := Option.bind_eq_some_iff.mp hnew
        exact ⟨row, (Deed.mem_settings h.sound hd).mpr (Or.inl hrow), hoption⟩
      · obtain ⟨row, hrow, hoption⟩ := (h.options_iff o).mp hold
        have hkept : ¬ d.Touches row.key := mt (htouches row hrow hoption).mp huntouched
        exact ⟨row, (Deed.mem_settings h.sound hd).mpr (Or.inr ⟨hrow, hkept⟩), hoption⟩
    · rintro ⟨row, hrow, hoption⟩
      rcases (Deed.mem_settings h.sound hd).mp hrow with hnew | ⟨hold, huntouched⟩
      · exact Or.inl (Option.bind_eq_some_iff.mpr ⟨row, hnew, hoption⟩)
      · refine Or.inr ⟨(h.options_iff o).mpr ⟨row, hold, hoption⟩, ?_⟩
        exact mt (htouches row hold hoption).mpr huntouched

/-- A call leaves rows paired, whatever comes of it. -/
theorem after (h : s.Paired provider) {ch : Change} (hch : ch.Plain)
    (habout : ch.About provider) : (ch.after s).Paired provider := by
  have hsound := Change.sound_after h.sound hch
  rcases ch.after_cases s with
    ⟨d, hdeed, _, hafter⟩ | ⟨_, _, _, hafter⟩ | ⟨_, _, _, hafter⟩ <;> rw [hafter] at hsound ⊢
  · exact h.done (Change.deed_plain hch hdeed) (Change.deed_about habout hdeed)
  · exact h
  · exact ⟨hsound, h.provider, h.options_iff⟩

/-- Calls, made one after the other, leave rows paired. -/
theorem worldAfter (config : Config) {w : World} (h : w.memory.preferences.Paired provider)
    {changes : List Change} (hplain : ∀ ch ∈ changes, ch.Plain)
    (habout : ∀ ch ∈ changes, ch.About provider) :
    (Change.worldAfter config w changes).memory.preferences.Paired provider := by
  induction changes generalizing w with
  | nil => exact h
  | cons ch rest ih =>
      have hafter : (ch.world config w).memory.preferences = ch.after w.memory.preferences :=
        (ch.turn_program config w).2.1
      refine ih ?_ (fun other hother => hplain other (List.mem_cons_of_mem ch hother))
        (fun other hother => habout other (List.mem_cons_of_mem ch hother))
      rw [hafter]
      exact h.after (hplain ch List.mem_cons_self) (habout ch List.mem_cons_self)

/-- Options in projects are made without an organization. -/
theorem apart (h : s.Paired provider) : s.Apart where
  keyed := h.sound.options
  organization := by
    intro o ho hproject
    obtain ⟨row, hrow, hoption⟩ := (h.options_iff o).mp ho
    exact (Key.optionKey?_plain (h.sound.plain row hrow)
      (SettingRow.optionKey?_of_option? (h.sound.allowed row hrow) hoption)).2 hproject

/-- The value found for a user is that of the choice that is stored for the project. -/
theorem mem_optionValues_iff_choice? (h : s.Paired provider)
    (hprovider : provider ∈ Provider.all) {topic : Topic} {key : String}
    (hkey : topic.optionKeyFor? true = some key) {users : List String} {project u : String}
    {l : OptionValue} :
    (u, l) ∈ s.optionValues users project key ↔
      u ∈ users ∧ ∃ v, s.choice? ⟨provider, topic, ⟨.user, u⟩, ⟨.project, project⟩⟩ = some v ∧
        (topic.option? v true).map (·.2) = some l := by
  have htopic : topic ∈ Topic.all := (Topic.mem_all_of_optionKeyFor? hkey).1
  have hfound : ∀ v, s.choice? ⟨provider, topic, ⟨.user, u⟩, ⟨.project, project⟩⟩ = some v ↔
      ⟨⟨provider, topic, ⟨.user, u⟩, ⟨.project, project⟩⟩, v⟩ ∈ rows s.settings :=
    fun v => h.sound.choice?_eq_some_iff hprovider htopic
  rw [h.apart.mem_optionValues]
  constructor
  · rintro ⟨o, ho, huser, rfl, hproject, rfl, rfl⟩
    obtain ⟨row, hrow, hoption⟩ := (h.options_iff o).mp ho
    have hplain := h.sound.plain row hrow
    have hallows := h.sound.allowed row hrow
    obtain ⟨htarget, hrowTopic, hscope⟩ := Key.of_optionKey?_eq_some hplain.own
      (SettingRow.optionKey?_of_option? hallows hoption)
    obtain rfl := Topic.eq_of_optionKeyFor? hkey hrowTopic
    have hrowScope : row.key.scope = ⟨.project, project⟩ := by
      rw [hscope, OptionKey.scope, hproject]
    obtain ⟨name, hvalue, _⟩ := SettingRow.option?_eq_some_iff.mp hoption
    have hinside : row.key.coordinates.project.isSome = true := by
      simp [Key.coordinates, hrowScope]
    refine ⟨huser, row.choice, (hfound _).mpr ?_, ?_⟩
    · rw [← h.provider row hrow, ← htarget, ← hrowScope]
      exact hrow
    · rw [hinside] at hvalue
      rw [hvalue]
      rfl
  · rintro ⟨huser, v, hchoice, hvalue⟩
    have hrow := (hfound v).mp hchoice
    have hname := Topic.option?_map_fst (h.sound.allowed _ hrow) true
    obtain ⟨⟨name, value⟩, hkept, rfl⟩ := Option.map_eq_some_iff.mp hvalue
    obtain rfl : name = key := by
      rw [hkept, hkey] at hname
      exact Option.some.inj hname
    refine ⟨⟨⟨u, name, some project, none⟩, value⟩, ?_, huser, rfl, rfl, rfl, rfl⟩
    exact (h.options_iff _).mpr ⟨_, hrow, SettingRow.option?_eq_some_iff.mpr ⟨name, hkept, rfl⟩⟩

end MemoryStore.Paired

/-- The options are the older forms of the preferences of users, one for one: every preference
of a user has its option, every option stands for one preference, and those of teams have none.
No preference and no option is there twice. -/
structure MemoryStore.Matched (s : MemoryStore) : Prop where
  users : ∀ row ∈ rows s.settings, row.key.target.kind = .user →
    ∃ o ∈ rows s.options, row.option? = some o
  teams : ∀ row ∈ rows s.settings, row.key.target.kind = .team → row.option? = none
  options : ∀ o ∈ rows s.options, ∃! row, row ∈ rows s.settings ∧ row.option? = some o
  settingKeys : ((rows s.settings).map (·.key)).Nodup
  optionKeys : ((rows s.options).map (·.key)).Nodup

theorem MemoryStore.Paired.matched {provider : Provider} {s : MemoryStore}
    (h : s.Paired provider) : s.Matched where
  users := by
    intro row hrow hkind
    obtain ⟨o, hoption⟩ := Option.isSome_iff_exists.mp
      ((SettingRow.option?_isSome_iff (h.sound.allowed row hrow)).mpr hkind)
    exact ⟨o, (h.options_iff o).mpr ⟨row, hrow, hoption⟩, hoption⟩
  teams := by
    intro row hrow hkind
    rw [Option.eq_none_iff_forall_ne_some]
    intro o hoption
    have huser := (SettingRow.option?_isSome_iff (h.sound.allowed row hrow)).mp (hoption ▸ rfl)
    cases hkind.symm.trans huser
  options := by
    intro o ho
    obtain ⟨row, hrow, hoption⟩ := (h.options_iff o).mp ho
    refine ⟨row, ⟨hrow, hoption⟩, ?_⟩
    rintro other ⟨hother, hotherOption⟩
    have hkey : other.key = row.key := Key.eq_of_optionKey? (h.sound.plain other hother).own
      (h.sound.plain row hrow).own ((h.provider other hother).trans (h.provider row hrow).symm)
      (SettingRow.optionKey?_of_option? (h.sound.allowed other hother) hotherOption)
      (SettingRow.optionKey?_of_option? (h.sound.allowed row hrow) hoption)
    exact h.sound.settings.eq_of_name_eq hother hrow (congrArg Key.rowName hkey)
  settingKeys := h.sound.settings.map_nodup
  optionKeys := h.sound.options.map_nodup

/-- Whatever calls about one provider are made of a store without rows, and whatever comes of
them: the options match the preferences, and asking for the options of users about a topic in a
project gives those of them who have made a choice there, with the older form of their choice. -/
theorem options_match_choices (config : Config) {provider : Provider}
    (hprovider : provider ∈ Provider.all) (w : World)
    (hsettings : w.memory.preferences.settings = [])
    (hoptions : w.memory.preferences.options = []) (changes : List Change)
    (hplain : ∀ ch ∈ changes, ch.Plain) (habout : ∀ ch ∈ changes, ch.About provider) :
    (Change.worldAfter config w changes).memory.preferences.Matched ∧
      ∀ (topic : Topic) (users : List String) (project : String),
        (topic.optionKeyFor? true).isSome →
        ∃ values : Assoc OptionValue,
          ((Store.memory.choicesOfUsers config provider topic users project).turn
            (Change.worldAfter config w changes)).1 = .ended (.ok (.ofNames values)) ∧
          (names values).Nodup ∧
          ∀ u l, (u, l) ∈ values ↔ u ∈ users ∧ ∃ v, v ≠ .inherit ∧
            ((Store.memory.choiceFor config provider topic
              ⟨some u, none, some project, none⟩).turn
                (Change.worldAfter config w changes)).1 = .ended (.ok v) ∧
            (topic.option? v true).map (·.2) = some l := by
  have hstart : w.memory.preferences.Paired provider := by
    refine ⟨MemoryStore.sound_of_nil hsettings hoptions, ?_, ?_⟩
    · rw [hsettings]
      exact fun row hrow => absurd hrow List.not_mem_nil
    · rw [hsettings, hoptions]
      simp [rows]
  have hpaired := hstart.worldAfter config hplain habout
  refine ⟨hpaired.matched, ?_⟩
  intro topic users project hinside
  obtain ⟨key, hkey⟩ := Option.isSome_iff_exists.mp hinside
  refine ⟨_, turn_choicesOfUsers config provider hkey users project _,
    (hpaired.apart.optionValues_eq users project key).2, ?_⟩
  intro u l
  have htopic : topic ∈ Topic.all := (Topic.mem_all_of_optionKeyFor? hkey).1
  have hnamed : Coordinates.key ⟨some u, none, some project, none⟩ provider topic =
      .ok ⟨provider, topic, ⟨.user, u⟩, ⟨.project, project⟩⟩ := rfl
  rw [hpaired.mem_optionValues_iff_choice? hprovider hkey, turn_choiceFor config hnamed]
  refine and_congr_right fun _ => exists_congr fun v => ?_
  rw [hpaired.sound.choice?_eq_some_iff_getD hprovider htopic, and_assoc]
  simp only [Stand.ended.injEq, Except.ok.injEq]

/-- Calls about one provider, one of them refused. -/
def slackCalls : List Change :=
  [.set .slack .issueAlerts .always ⟨some "u1", none, some "p1", none⟩,
    .set .slack .issueAlerts .never ⟨some "u2", none, some "p1", some "o1"⟩,
    .set .slack .workflow .subscribeOnly ⟨none, some "t1", none, some "o1"⟩,
    .set .slack .deploy .subscribeOnly ⟨some "u1", none, none, none⟩,
    .remove .slack .issueAlerts ⟨some "u2", none, some "p1", none⟩,
    .erase "u3" .every]

theorem options_match_choices_slackCalls :
    (Change.worldAfter Config.blank World.fresh slackCalls).memory.preferences.Matched ∧
      ∀ (topic : Topic) (users : List String) (project : String),
        (topic.optionKeyFor? true).isSome →
        ∃ values : Assoc OptionValue,
          ((Store.memory.choicesOfUsers Config.blank .slack topic users project).turn
            (Change.worldAfter Config.blank World.fresh slackCalls)).1 =
              .ended (.ok (.ofNames values)) ∧
          (names values).Nodup ∧
          ∀ u l, (u, l) ∈ values ↔ u ∈ users ∧ ∃ v, v ≠ .inherit ∧
            ((Store.memory.choiceFor Config.blank .slack topic
              ⟨some u, none, some project, none⟩).turn
                (Change.worldAfter Config.blank World.fresh slackCalls)).1 =
                  .ended (.ok v) ∧
            (topic.option? v true).map (·.2) = some l :=
  options_match_choices Config.blank (by decide +kernel) World.fresh rfl rfl slackCalls
    (by decide +kernel) (by decide +kernel)

end AlertRelay.Preference
