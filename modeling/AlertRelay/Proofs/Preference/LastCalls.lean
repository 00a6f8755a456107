import AlertRelay.Proofs.Preference.Counterparts

/-!
Preferences and options as the last calls left them.

A preference knows its provider and the option that stands for it does not, so that calls about
two providers write to one option.  Which rows there are is read off the calls that came out well:
a row is there if one of them left it behind and no later one wrote under its name
(`MemoryStore.Recorded`).  From this follows when the option of a preference is there
(`mirrored_of_calls`); that a call about another provider may take it away is
`option_lost_to_slack`.
-/

namespace AlertRelay.Preference

open Assoc (Keyed rows names)

namespace Deed

/-- What is there of all that deeds leave behind: no later deed has written under its name. -/
def Left {β : Type} (left : Deed → Option β) (hasName : Deed → β → Prop) (deeds : List Deed)
    (b : β) : Prop :=
  ∃ before d after, deeds = before ++ d :: after ∧ left d = some b ∧ ∀ e ∈ after, ¬ hasName e b

theorem left_nil {β : Type} {left : Deed → Option β} {hasName : Deed → β → Prop} {b : β} :
    ¬ Left left hasName [] b := by
  rintro ⟨before, d, after, hdeeds, _⟩
  exact List.append_ne_nil_of_right_ne_nil before (List.cons_ne_nil d after) hdeeds.symm

/-- Of one more deed there is what it leaves behind, and what was there and has none of its
names. -/
theorem left_concat {β : Type} {left : Deed → Option β} {hasName : Deed → β → Prop}
    {deeds : List Deed} {d : Deed} {b : β} :
    Left left hasName (deeds ++ [d]) b ↔
      left d = some b ∨ (Left left hasName deeds b ∧ ¬ hasName d b) := by
  constructor
  · rintro ⟨before, e, after, hdeeds, hleft, hlater⟩
    rcases List.eq_nil_or_concat after with rfl | ⟨rest, f, rfl⟩
    · obtain ⟨_, hlast⟩ := List.append_inj' hdeeds rfl
      cases hlast
      exact .inl hleft
    · rw [List.concat_eq_append, ← List.cons_append, ← List.append_assoc] at hdeeds
      obtain ⟨rfl, hlast⟩ := List.append_inj' hdeeds rfl
      cases hlast
      simp only [List.concat_eq_append] at hlater
      refine .inr ⟨⟨before, e, rest, rfl, hleft, ?_⟩, hlater _ (by simp)⟩
      intro g hg
      exact hlater g (List.mem_append_left _ hg)
  · rintro (hleft | ⟨⟨before, e, after, rfl, hleft, hlater⟩, hlast⟩)
    · exact ⟨deeds, d, [], rfl, hleft, fun _ h => absurd h List.not_mem_nil⟩
    · refine ⟨before, e, after ++ [d], by simp, hleft, ?_⟩
      intro g hg
      rcases List.mem_append.mp hg with hg | hg
      · exact hlater g hg
      · rw [List.mem_singleton.mp hg]
        exact hlast

/-- A deed writes under the name of the option that it leaves behind. -/
theorem namesOption_of_option? {d : Deed} (hd : d.Allowed) {o : OptionRow}
    (h : d.option? = some o) : d.NamesOption o := by
  cases d with
  | put key choice =>
      have hkey : (SettingRow.option? ⟨key, choice⟩).map (·.key) = key.optionKey? :=
        SettingRow.option?_map_key hd
      have hoption : SettingRow.option? ⟨key, choice⟩ = some o := h
      rw [hoption] at hkey
      exact ⟨o.key, hkey.symm, rfl⟩
  | drop key => cases h
  | erase user topics => cases h

/-- A deed about the preference of a user from another provider, otherwise the same. -/
def Rivals : Deed → Key → Prop
  | .put key _, k => key.provider ≠ k.provider ∧ key = { k with provider := key.provider }
  | .drop key, k => key.provider ≠ k.provider ∧ key = { k with provider := key.provider }
  | .erase _ _, _ => False

end Deed

theorem Change.deed_allowed {ch : Change} {d : Deed} (h : ch.deed = .ok d) : d.Allowed := by
  rcases deed_cases h with ⟨_, topic, choice, c, k, rfl, hkey, hallows, rfl⟩ |
      ⟨_, topic, c, k, _, _, rfl⟩ | ⟨user, topics, _, rfl⟩
  · obtain ⟨_, rfl, _⟩ := Coordinates.of_key hkey
    exact hallows
  · trivial
  · trivial

/-- The rows of a store are what is there of all that deeds left behind. -/
structure MemoryStore.Recorded (deeds : List Deed) (s : MemoryStore) : Prop where
  settings : Keyed (fun row : SettingRow => row.key.rowName) s.settings
  options : Keyed (fun row : OptionRow => row.key.rowName) s.options
  allowed : ∀ d ∈ deeds, d.Allowed
  settings_iff : ∀ row, row ∈ rows s.settings ↔ Deed.Left Deed.row? Deed.Names deeds row
  options_iff : ∀ o, o ∈ rows s.options ↔ Deed.Left Deed.option? Deed.NamesOption deeds o

namespace MemoryStore.Recorded

variable {deeds : List Deed} {s : MemoryStore}

theorem nil (hsettings : s.settings = []) (hoptions : s.options = []) : s.Recorded [] where
  settings := hsettings ▸ Assoc.keyed_nil
  options := hoptions ▸ Assoc.keyed_nil
  allowed := fun _ h => absurd h List.not_mem_nil
  settings_iff := by
    intro row
    rw [hsettings]
    exact iff_of_false List.not_mem_nil Deed.left_nil
  options_iff := by
    intro o
    rw [hoptions]
    exact iff_of_false List.not_mem_nil Deed.left_nil

theorem done (h : s.Recorded deeds) {d : Deed} (hd : d.Allowed) :
    (d.done s).Recorded (deeds ++ [d]) where
  settings := Deed.settings_keyed h.settings
  options := Deed.options_keyed h.options
  allowed := by
    intro e he
    rcases List.mem_append.mp he with he | he
    · exact h.allowed e he
    · exact List.mem_singleton.mp he ▸ hd
  settings_iff := by
    intro row
    rw [Deed.left_concat, ← h.settings_iff]
    exact Deed.mem_rows_settings h.settings
  options_iff := by
    intro o
    rw [Deed.left_concat, ← h.options_iff]
    exact Deed.mem_rows_options h.options hd

/-- A preference holds a choice that can be made. -/
theorem allows (h : s.Recorded deeds) {row : SettingRow} (hrow : row ∈ rows s.settings) :
    row.key.topic.allows row.choice = true := by
  obtain ⟨before, d, after, rfl, hleft, _⟩ := (h.settings_iff row).mp hrow
  have hd := h.allowed d (List.mem_append_right _ List.mem_cons_self)
  cases d with
  | put key choice =>
      cases hleft
      exact hd
  | drop key => cases hleft
  | erase user topics => cases hleft

/-- An option that is named in a project is named without an organization. -/
theorem apart (h : s.Recorded deeds) : s.Apart where
  keyed := h.options
  organization := by
    intro o ho hproject
    obtain ⟨before, d, after, _, hleft, _⟩ := (h.options_iff o).mp ho
    obtain ⟨row, _, hoption⟩ := Option.bind_eq_some_iff.mp hleft
    obtain ⟨name, _, hkey⟩ := SettingRow.option?_eq_some_iff.mp hoption
    unfold Coordinates.optionKey? at hkey
    split at hkey
    · rename_i hname
      cases hname
      rw [← Option.some.inj hkey] at hproject ⊢
      exact if_pos hproject
    · cases hkey

/-- Every preference is what the last deed under its name left behind. -/
theorem exists_put (h : s.Recorded deeds) {row : SettingRow} (hrow : row ∈ rows s.settings) :
    ∃ before after, deeds = before ++ .put row.key row.choice :: after ∧
      ∀ d ∈ after, ¬ d.Names row := by
  obtain ⟨before, d, after, hdeeds, hleft, hlater⟩ := (h.settings_iff row).mp hrow
  cases d with
  | put key choice =>
      cases hleft
      exact ⟨before, after, hdeeds, hlater⟩
  | drop key => cases hleft
  | erase user topics => cases hleft

/-- The option of a stored choice is there if no later deed wrote under its name. -/
theorem option_mem (h : s.Recorded deeds) {before after : List Deed} {row : SettingRow}
    (hdeeds : deeds = before ++ .put row.key row.choice :: after) {o : OptionRow}
    (hoption : row.option? = some o) (hlater : ∀ d ∈ after, ¬ d.NamesOption o) :
    o ∈ rows s.options :=
  (h.options_iff o).mpr ⟨before, _, after, hdeeds, hoption, hlater⟩

end MemoryStore.Recorded

/-- Among plain keys a deed that writes under the name of an option, but not under that of its
preference, is about the preference from another provider. -/
theorem Deed.rivals_of_namesOption {d : Deed} (hd : d.Plain) {row : SettingRow}
    (hrow : row.key.Plain) (hallows : row.key.topic.allows row.choice = true) {o : OptionRow}
    (hoption : row.option? = some o) (hname : d.NamesOption o) (hother : ¬ d.Names row) :
    d.Rivals row.key := by
  have hkey := SettingRow.optionKey?_of_option? hallows hoption
  have htouches : d.TouchesOption o.key :=
    (namesOption_iff hd (Key.optionKey?_plain hrow hkey).1).mp hname
  obtain ⟨htarget, htopic, hscope⟩ := Key.of_optionKey?_eq_some hrow.own hkey
  have hrival : ∀ {key : Key}, key.Plain → key.optionKey? = some o.key → key ≠ row.key →
      key.provider ≠ row.key.provider ∧ key = { row.key with provider := key.provider } := by
    intro key hplain hsame hne
    have hsameKey : key.provider = row.key.provider → key = row.key := fun hprovider =>
      Key.eq_of_optionKey? hplain.own hrow.own hprovider hsame hkey
    refine ⟨mt hsameKey hne, ?_⟩
    obtain ⟨hkeyTarget, hkeyTopic, hkeyScope⟩ := Key.of_optionKey?_eq_some hplain.own hsame
    rw [Key.mk.injEq]
    exact ⟨rfl, Topic.eq_of_optionKeyFor? hkeyTopic htopic, hkeyTarget.trans htarget.symm,
      hkeyScope.trans hscope.symm⟩
  cases d with
  | put key choice => exact hrival hd.1 htouches fun h => hother (congrArg Key.rowName h).symm
  | drop key => exact hrival hd htouches fun h => hother (congrArg Key.rowName h).symm
  | erase user topics =>
      obtain ⟨huser, htopics⟩ := htouches
      refine absurd ⟨?_, (Topics.mem_optionKeys_iff htopic).mp htopics⟩ hother
      rw [htarget, huser]

namespace Change

/-- What a call comes down to, if it comes out well. -/
def accepted? (config : Config) (w : World) (ch : Change) : Option Deed :=
  match ((ch.program config).turn w).1, ch.deed with
  | .ended (.ok _), .ok d => some d
  | _, _ => none

/-- What calls come down to that are made one after the other and come out well. -/
def accepted (config : Config) (w : World) : List Change → List Deed
  | [] => []
  | ch :: rest => (ch.accepted? config w).toList ++ accepted config (ch.world config w) rest

/-- A call that comes out well does its deed, and any other changes no row. -/
theorem world_cases (config : Config) (w : World) (ch : Change) :
    (∃ d, ch.deed = .ok d ∧ ch.accepted? config w = some d ∧
      (ch.world config w).memory.preferences = d.done w.memory.preferences) ∨
    (ch.accepted? config w = none ∧
      (ch.world config w).memory.preferences.settings = w.memory.preferences.settings ∧
      (ch.world config w).memory.preferences.options = w.memory.preferences.options) := by
  obtain ⟨hresult, hafter, _⟩ := ch.turn_program config w
  unfold accepted?
  rw [hresult]
  change (ch.world config w).memory.preferences = _ at hafter
  rw [hafter]
  rcases ch.after_cases w.memory.preferences with
    ⟨d, hdeed, hwell, hdone⟩ | ⟨refusal, _, hrefused, hsame⟩ | ⟨name, _, hrefused, hcounted⟩
  · rw [hdone, hwell, hdeed]
    exact .inl ⟨d, rfl, rfl, rfl⟩
  · rw [hsame, hrefused]
    exact .inr ⟨rfl, rfl, rfl⟩
  · rw [hcounted, hrefused]
    exact .inr ⟨rfl, rfl, rfl⟩

end Change

namespace MemoryStore.Recorded

variable {deeds : List Deed} {config : Config}

/-- A call is recorded if it comes out well, and leaves what is recorded if it does not. -/
theorem world {w : World} (h : w.memory.preferences.Recorded deeds) (ch : Change) :
    (ch.world config w).memory.preferences.Recorded
      (deeds ++ (ch.accepted? config w).toList) := by
  rcases ch.world_cases config w with ⟨d, hdeed, haccepted, hdone⟩ |
    ⟨haccepted, hsettings, hoptions⟩
  · rw [haccepted, hdone]
    exact h.done (Change.deed_allowed hdeed)
  · rw [haccepted, Option.toList_none, List.append_nil]
    exact ⟨hsettings ▸ h.settings, hoptions ▸ h.options, h.allowed,
      hsettings ▸ h.settings_iff, hoptions ▸ h.options_iff⟩

theorem worldAfter {w : World} (h : w.memory.preferences.Recorded deeds)
    (changes : List Change) :
    (Change.worldAfter config w changes).memory.preferences.Recorded
      (deeds ++ Change.accepted config w changes) := by
  induction changes generalizing w deeds with
  | nil =>
      rw [Change.accepted, List.append_nil]
      exact h
  | cons ch rest ih =>
      rw [Change.accepted, ← List.append_assoc]
      exact ih (h.world ch)

end MemoryStore.Recorded

/-- The option of a preference in a project is told to whoever asks for it. -/
theorem MemoryStore.Recorded.told {deeds : List Deed} {w : World}
    (h : w.memory.preferences.Recorded deeds) (config : Config) {row : SettingRow}
    (hallows : row.key.topic.allows row.choice = true) {o : OptionRow}
    (hoption : row.option? = some o) (ho : o ∈ rows w.memory.preferences.options)
    {project : String} (hscope : row.key.scope = ⟨.project, project⟩) (provider : Provider)
    {users : List String} (huser : row.key.target.id ∈ users) :
    ∃ values, ((Store.memory.choicesOfUsers config provider row.key.topic users project).turn
        w).1 = .ended (.ok (.ofNames values)) ∧
      (names values).Nodup ∧ (row.key.target.id, o.value) ∈ values := by
  obtain ⟨name, hvalue, hkey⟩ := SettingRow.option?_eq_some_iff.mp hoption
  have hkind := (SettingRow.option?_isSome_iff hallows).mp (hoption ▸ rfl)
  have htarget : row.key.coordinates.user = some row.key.target.id := by
    simp [Key.coordinates, hkind]
  have hproject : row.key.coordinates.project = some project := by
    simp [Key.coordinates, hscope]
  obtain ⟨_, hname, hoptionKey⟩ := (Coordinates.optionKey?_eq_some htarget).mp hkey
  cases hname
  have htopic : row.key.topic.optionKeyFor? true = some name := by
    have hfst := Topic.option?_map_fst hallows true
    rw [hproject, Option.isSome_some] at hvalue
    rw [hvalue] at hfst
    exact hfst.symm
  refine ⟨_, turn_choicesOfUsers config provider htopic users project w,
    (h.apart.optionValues_eq users project name).2, ?_⟩
  refine h.apart.mem_optionValues.mpr ⟨o, ho, huser, ?_, ?_, ?_, rfl⟩ <;> rw [← hoptionKey]
  exact hproject

/-- How the preferences in memory and their options go together after accepted calls. -/
structure Mirrored (config : Config) (deeds : List Deed) (w : World) : Prop where
  /-- Every preference was stored by the last accepted call under its name. -/
  stored : ∀ row ∈ rows w.memory.preferences.settings, ∃ before after,
    deeds = before ++ .put row.key row.choice :: after ∧ ∀ d ∈ after, ¬ d.Names row
  /-- That of a user has an option.  If no call was accepted later that writes under the name of
  the option, this is there, and in a project it is told to whoever asks. -/
  mirrored : ∀ row ∈ rows w.memory.preferences.settings, row.key.target.kind = .user →
    ∃ o, row.option? = some o ∧ ∀ before after,
      deeds = before ++ .put row.key row.choice :: after → (∀ d ∈ after, ¬ d.NamesOption o) →
        o ∈ rows w.memory.preferences.options ∧
          ∀ project, row.key.scope = ⟨.project, project⟩ → ∀ provider users,
            row.key.target.id ∈ users → ∃ values,
              ((Store.memory.choicesOfUsers config provider row.key.topic users project).turn
                w).1 = .ended (.ok (.ofNames values)) ∧
              (names values).Nodup ∧ (row.key.target.id, o.value) ∈ values
  /-- Among plain keys such a call is about the preference from another provider. -/
  rivals : ∀ row ∈ rows w.memory.preferences.settings, row.key.Plain → ∀ o,
    row.option? = some o → ∀ d ∈ deeds, d.Plain → d.NamesOption o → ¬ d.Names row →
      d.Rivals row.key
  /-- No call, whether it comes out well or not, changes an option without writing under its
  name. -/
  frame : ∀ (ch : Change) (o : OptionRow), (∀ d, ch.deed = .ok d → ¬ d.NamesOption o) →
    (o ∈ rows (ch.world config w).memory.preferences.options ↔
      o ∈ rows w.memory.preferences.options)

/-- Whatever calls are made of a store without rows, about whatever providers, and whatever comes
of them: the option of a stored preference is there as long as no later call was accepted that
writes under its name. -/
theorem mirrored_of_calls (config : Config) (w : World)
    (hsettings : w.memory.preferences.settings = [])
    (hoptions : w.memory.preferences.options = []) (changes : List Change) :
    Mirrored config (Change.accepted config w changes) (Change.worldAfter config w changes) := by
  have hrecorded :
      MemoryStore.Recorded _ (Change.worldAfter config w changes).memory.preferences :=
    (MemoryStore.Recorded.nil hsettings hoptions).worldAfter changes
  rw [List.nil_append] at hrecorded
  refine ⟨fun row hrow => hrecorded.exists_put hrow, ?_, ?_, ?_⟩
  · intro row hrow hkind
    have hallows := hrecorded.allows hrow
    obtain ⟨o, hoption⟩ :=
      Option.isSome_iff_exists.mp ((SettingRow.option?_isSome_iff hallows).mpr hkind)
    refine ⟨o, hoption, ?_⟩
    intro before after hdeeds hlater
    have ho := hrecorded.option_mem hdeeds hoption hlater
    refine ⟨ho, ?_⟩
    intro project hscope provider users huser
    exact hrecorded.told config hallows hoption ho hscope provider huser
  · intro row hrow hplain o hoption d _ hd hname hother
    exact Deed.rivals_of_namesOption hd hplain (hrecorded.allows hrow) hoption hname hother
  · intro ch o hnames
    rcases ch.world_cases config (Change.worldAfter config w changes) with
      ⟨d, hdeed, _, hdone⟩ | ⟨_, _, hsame⟩
    · have hallowed := Change.deed_allowed hdeed
      have hname := hnames d hdeed
      rw [hdone]
      refine (Deed.mem_rows_options hrecorded.options hallowed).trans ?_
      constructor
      · rintro (hnew | ⟨hold, _⟩)
        · exact absurd (Deed.namesOption_of_option? hallowed hnew) hname
        · exact hold
      · intro hold
        exact .inr ⟨hold, hname⟩
    · rw [hsame]

/-- A user's preference as it is stored about mail. -/
def mailRow : SettingRow :=
  ⟨⟨.email, .issueAlerts, ⟨.user, "u1"⟩, ⟨.project, "p1"⟩⟩, .always⟩

/-- A user makes a choice about mail, and has none about Slack. -/
def crossedCalls : List Change :=
  [.set .email .issueAlerts .always ⟨some "u1", none, some "p1", none⟩,
    .remove .slack .issueAlerts ⟨some "u1", none, some "p1", none⟩]

/-- A preference may be stored whose option a call about another provider has taken away, and then
nobody is told of it. -/
theorem option_lost_to_slack :
    (¬ ∀ row ∈ rows (Change.worldAfter Config.blank World.fresh
        crossedCalls).memory.preferences.settings, row.key.target.kind = .user →
      ∃ o ∈ rows (Change.worldAfter Config.blank World.fresh
        crossedCalls).memory.preferences.options, row.option? = some o) ∧
      ((Store.memory.choicesOfUsers Config.blank .email .issueAlerts ["u1"] "p1").turn
        (Change.worldAfter Config.blank World.fresh crossedCalls)).1 = .ended (.ok []) := by
  have hnone : rows (Change.worldAfter Config.blank World.fresh
      crossedCalls).memory.preferences.options = [] := by
    decide +kernel
  refine ⟨fun h => ?_, ?_⟩
  · obtain ⟨o, ho, _⟩ := h mailRow (by decide +kernel) rfl
    rw [hnone] at ho
    cases ho
  · have hkey : Topic.issueAlerts.optionKeyFor? true = some "mail:alert" := by
      decide +kernel
    rw [turn_choicesOfUsers Config.blank .email hkey]
    unfold MemoryStore.optionValues
    rw [List.map_eq_nil_iff.mp hnone]
    rfl

/-- A user makes a choice about mail, another one about Slack, and the first one again. -/
def contestedCalls : List Change :=
  [.set .email .issueAlerts .always ⟨some "u1", none, some "p1", none⟩,
    .set .slack .issueAlerts .never ⟨some "u1", none, some "p1", none⟩,
    .set .email .issueAlerts .always ⟨some "u1", none, some "p1", none⟩]

theorem mirrored_contestedCalls :
    Mirrored Config.blank (Change.accepted Config.blank World.fresh contestedCalls)
        (Change.worldAfter Config.blank World.fresh contestedCalls) ∧
      ∃ o ∈ rows (Change.worldAfter Config.blank World.fresh
        contestedCalls).memory.preferences.options, mailRow.option? = some o := by
  have hmirrored := mirrored_of_calls Config.blank World.fresh rfl rfl contestedCalls
  have hstored : mailRow ∈ rows (Change.worldAfter Config.blank World.fresh
      contestedCalls).memory.preferences.settings := by
    decide +kernel
  obtain ⟨o, hoption, hthere⟩ := hmirrored.mirrored mailRow hstored rfl
  -- The last of the calls stored the preference, and none comes after it.
  have hlast : Change.accepted Config.blank World.fresh contestedCalls =
      [.put mailRow.key .always, .put { mailRow.key with provider := .slack } .never] ++
        .put mailRow.key mailRow.choice :: [] := by
    decide +kernel
  exact ⟨hmirrored, o, (hthere _ _ hlast fun _ h => absurd h List.not_mem_nil).1, hoption⟩

end AlertRelay.Preference
