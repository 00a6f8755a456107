import AlertRelay.Proofs.Preference.LastCalls

/-!
Erasure of a user's preferences.

An erasure finds preferences by their target and topic, and options by a list of keys that is kept
apart.  `Topic.MayWrite` says which options a topic may have without that list: those that some
update about it writes.  The list agrees with it (`Topic.mayWrite_iff`), and every stored option was
written by an update (`Reachable.written`).  So an erasure takes away all that it means and nothing
else (`erased_exactly`).
-/

namespace AlertRelay.Preference

open Assoc (rows)

/-- Whether some update about a topic writes an option under a key. -/
def Topic.MayWrite (t : Topic) (key : String) : Prop :=
  ∃ provider choice c u option value, update provider t choice c = .ok u ∧
    Write.putOption option value ∈ u.writes ∧ option.key = key

theorem Coordinates.name_of_optionKey? {c : Coordinates} {name : Option String} {o : OptionKey}
    (h : c.optionKey? name = some o) : name = some o.key := by
  unfold optionKey? at h
  split at h
  · cases h
    rfl
  · cases h

theorem Topic.optionKeyFor?_of_option? {t : Topic} {choice : Choice} {inProject : Bool}
    {name : String} {value : OptionValue} (h : t.option? choice inProject = some (name, value)) :
    t.optionKeyFor? inProject = some name := by
  unfold option? at h
  split at h
  · next key text hkey htext =>
      rw [hkey]
      exact congrArg some (Prod.mk.inj (Option.some.inj h)).1
  · cases h

/-- What is known of an option that is stored along with a choice. -/
theorem optionKeyFor?_of_mem_storing {k : Key} {t : Topic} {choice : Choice} {c : Coordinates}
    {option : OptionKey} {value : OptionValue}
    (h : Write.putOption option value ∈ storing k t choice c) :
    t.optionKeyFor? c.project.isSome = some option.key := by
  have hnever : Write.putOption option value ∉ [Write.putSetting k choice] := by
    intro hmem
    cases List.mem_singleton.mp hmem
  unfold storing at h
  cases hkept : t.option? choice c.project.isSome with
  | none =>
      rw [hkept] at h
      exact absurd h hnever
  | some kept =>
      obtain ⟨name, kept⟩ := kept
      rw [hkept] at h
      cases hoption : c.optionKey? (some name) with
      | none =>
          simp only [Option.map_some, hoption] at h
          exact absurd h hnever
      | some own =>
          simp only [Option.map_some, hoption, List.mem_cons, List.not_mem_nil, or_false,
            reduceCtorEq, false_or, Write.putOption.injEq] at h
          obtain ⟨rfl, rfl⟩ := h
          rw [← Coordinates.name_of_optionKey? hoption]
          exact Topic.optionKeyFor?_of_option? hkept

/-- An update writes no option but one of its topic. -/
theorem optionKeyFor?_of_mem_update {provider : Provider} {t : Topic} {choice : Choice}
    {c : Coordinates} {u : Update} (hupdate : update provider t choice c = .ok u)
    {option : OptionKey} {value : OptionValue} (hmem : Write.putOption option value ∈ u.writes) :
    t.optionKeyFor? c.project.isSome = some option.key := by
  unfold update at hupdate
  by_cases hinherit : choice = .inherit
  · rw [if_pos hinherit] at hupdate
    unfold removal at hupdate
    cases hkey : keyOf provider t c with
    | error refusal =>
        rw [hkey] at hupdate
        cases hupdate
    | ok k =>
        rw [hkey] at hupdate
        cases hupdate
        rcases List.mem_cons.mp hmem with hmem | hmem
        · cases hmem
        · obtain ⟨dropped, _, hdropped⟩ := Option.map_eq_some_iff.mp (Option.mem_toList.mp hmem)
          cases hdropped
  · rw [if_neg hinherit] at hupdate
    by_cases hallows : t.allows choice = true
    · rw [if_pos hallows] at hupdate
      cases hkey : keyOf provider t c with
      | error refusal =>
          rw [hkey] at hupdate
          cases hupdate
      | ok k =>
          rw [hkey] at hupdate
          cases hupdate
          exact optionKeyFor?_of_mem_storing hmem
    · rw [if_neg hallows] at hupdate
      cases hupdate

/-- The options that updates about a topic write are those under its option keys. -/
theorem Topic.mayWrite_iff {t : Topic} {key : String} : t.MayWrite key ↔ key ∈ t.optionKeys := by
  constructor
  · rintro ⟨provider, choice, c, u, option, value, hupdate, hmem, rfl⟩
    exact mem_optionKeys_iff.mpr ⟨_, optionKeyFor?_of_mem_update hupdate hmem⟩
  · intro hkey
    obtain ⟨inProject, hname⟩ := mem_optionKeys_iff.mp hkey
    -- A user may always want to be told about a topic that has options.
    have halways : t.allows .always = true := by
      rcases optionKeyFor?_cases hname with ⟨rfl, _⟩ | ⟨rfl, _⟩ | ⟨rfl, _⟩
      · decide +kernel
      · decide +kernel
      · decide +kernel
    have hkept := option?_map_fst halways inProject
    rw [hname] at hkept
    obtain ⟨⟨name, value⟩, hoption, rfl⟩ := Option.map_eq_some_iff.mp hkept
    obtain ⟨c, k, huser, hproject, hkey⟩ : ∃ c k, c.user = some "u" ∧
        c.project.isSome = inProject ∧ keyOf .email t c = .ok k := by
      cases inProject with
      | true => exact ⟨⟨some "u", none, some "p", none⟩, _, rfl, rfl, rfl⟩
      | false => exact ⟨⟨some "u", none, none, none⟩, _, rfl, rfl, rfl⟩
    obtain ⟨option, hstored, hoptionKey⟩ : ∃ option, c.optionKey? (some name) = some option ∧
        option.key = name := by
      simp only [Coordinates.optionKey?, huser]
      exact ⟨_, rfl, rfl⟩
    refine ⟨.email, .always, c, .stored k (storing k t .always c), option, value, ?_, ?_,
      hoptionKey⟩
    · rw [update, if_neg (ne_inherit_of_allows halways), if_pos halways, hkey]
    · simp only [Update.writes, storing, hproject, hoption, Option.map_some, hstored]
      exact List.mem_cons_of_mem _ List.mem_cons_self

/-- The surroundings that calls lead to from some without preferences.  Between two calls anything
may happen but to the preferences and options themselves. -/
inductive Reachable (config : Config) : World → Prop
  | start {w : World} (hsettings : w.memory.preferences.settings = [])
      (hoptions : w.memory.preferences.options = []) : Reachable config w
  | call {w : World} (h : Reachable config w) (ch : Change) : Reachable config (ch.world config w)
  | meanwhile {w w' : World} (h : Reachable config w)
      (hsettings : w'.memory.preferences.settings = w.memory.preferences.settings)
      (hoptions : w'.memory.preferences.options = w.memory.preferences.options) :
      Reachable config w'

theorem mem_of_mem_put {α : Type} {name : String} {v : α} {a : Assoc α} {p : String × α}
    (h : p ∈ a.put name v) : p = (name, v) ∨ p ∈ a := by
  induction a with
  | nil => exact .inl (List.mem_singleton.mp h)
  | cons first rest ih =>
      obtain ⟨other, value⟩ := first
      unfold Assoc.put at h
      by_cases hsame : other = name
      · rw [if_pos hsame] at h
        exact (List.mem_cons.mp h).imp_right (List.mem_cons_of_mem _)
      · rw [if_neg hsame] at h
        rcases List.mem_cons.mp h with rfl | hrest
        · exact .inr List.mem_cons_self
        · exact (ih hrest).imp_right (List.mem_cons_of_mem _)

/-- The options after a deed: some of those before it, and perhaps one of the topic of the choice
that was stored. -/
theorem Deed.written_options {d : Deed} (hd : d.Allowed) {a : Assoc OptionRow}
    {p : String × OptionRow} (h : p ∈ d.options a) :
    p ∈ a ∨ ∃ t : Topic, t.MayWrite p.2.key.key := by
  cases d with
  | put key choice =>
      simp only [options] at h
      cases hoption : SettingRow.option? ⟨key, choice⟩ with
      | none =>
          rw [hoption] at h
          exact .inl h
      | some o =>
          rw [hoption] at h
          rcases mem_of_mem_put h with rfl | hold
          · have hkey : (SettingRow.option? ⟨key, choice⟩).map (·.key) = key.optionKey? :=
              SettingRow.option?_map_key hd
            rw [hoption, Option.map_some] at hkey
            have hname := Coordinates.name_of_optionKey? hkey.symm
            exact .inr ⟨key.topic, Topic.mayWrite_iff.mpr (Topic.mem_optionKeys_iff.mpr ⟨_, hname⟩)⟩
          · exact .inl hold
  | drop key =>
      simp only [options] at h
      cases hoption : key.optionKey? with
      | none =>
          rw [hoption] at h
          exact .inl h
      | some o =>
          rw [hoption] at h
          exact .inl (List.mem_filter.mp h).1
  | erase user topics => exact .inl (List.mem_filter.mp h).1

/-- The options after a call: those before it, and perhaps one that some update writes. -/
theorem Change.written_after {s : MemoryStore} {ch : Change} {p : String × OptionRow}
    (h : p ∈ (ch.after s).options) : p ∈ s.options ∨ ∃ t : Topic, t.MayWrite p.2.key.key := by
  rcases ch.after_cases s with ⟨d, hdeed, _, hafter⟩ | ⟨_, _, _, hafter⟩ | ⟨_, _, _, hafter⟩
  · rw [hafter] at h
    exact Deed.written_options (Change.deed_allowed hdeed) h
  · rw [hafter] at h
    exact .inl h
  · rw [hafter] at h
    exact .inl h

/-- Every stored option was written by some update. -/
theorem Reachable.written {config : Config} {w : World} (h : Reachable config w) :
    ∀ p ∈ w.memory.preferences.options, ∃ t : Topic, t.MayWrite p.2.key.key := by
  induction h with
  | start hsettings hoptions =>
      intro p hp
      rw [hoptions] at hp
      cases hp
  | @call w _ ch ih =>
      intro p hp
      have hafter : (ch.world config w).memory.preferences = ch.after w.memory.preferences :=
        (ch.turn_program config w).2.1
      rw [hafter] at hp
      rcases ch.written_after hp with hold | hnew
      · exact ih p hold
      · exact hnew
  | meanwhile _ _ hoptions ih =>
      intro p hp
      rw [hoptions] at hp
      exact ih p hp

/-- What an erasure of a user's preferences about topics did to a store: the preferences and options
that it means are gone, all others are still there, and nothing came or moved. -/
structure Erased (user : String) (topics : Topics) (s s' : MemoryStore) : Prop where
  rows_gone : ∀ row ∈ rows s'.settings, row.key.target = ⟨.user, user⟩ →
    topics.includes row.key.topic = false
  options_gone : ∀ o ∈ rows s'.options, o.key.user = user → ∀ t : Topic, t.MayWrite o.key.key →
    topics.includes t = false
  rows_kept : ∀ p ∈ s.settings,
    (p.2.key.target ≠ ⟨.user, user⟩ ∨ topics.includes p.2.key.topic = false) → p ∈ s'.settings
  options_kept : ∀ p ∈ s.options,
    (p.2.key.user ≠ user ∨ ∃ t : Topic, t.MayWrite p.2.key.key ∧ topics.includes t = false) →
      p ∈ s'.options
  settings_order : s'.settings.Sublist s.settings
  options_order : s'.options.Sublist s.options

/-- An option key is on the list of an erasure exactly if its topic is meant. -/
theorem Topics.mem_optionKeys_of_mayWrite {topics : Topics} {t : Topic} {key : String}
    (h : t.MayWrite key) : key ∈ topics.optionKeys ↔ topics.includes t = true := by
  obtain ⟨inProject, hname⟩ := Topic.mem_optionKeys_iff.mp (Topic.mayWrite_iff.mp h)
  exact Topics.mem_optionKeys_iff hname

theorem erased_done (s : MemoryStore) (user : String) (topics : Topics) :
    Erased user topics s ((Deed.erase user topics).done s) where
  rows_gone := by
    intro row hrow htarget
    have hkept := (Assoc.mem_rows_filter (fun row : SettingRow =>
      !(row.key.target == ⟨.user, user⟩ && topics.includes row.key.topic))).mp hrow
    simpa [htarget] using hkept.2
  options_gone := by
    intro o ho huser t ht
    have hkept := (Assoc.mem_rows_filter (fun o : OptionRow =>
      !(o.key.user == user && topics.optionKeys.contains o.key.key))).mp ho
    have hkey : o.key.key ∉ topics.optionKeys := by simpa [huser] using hkept.2
    rw [Topics.mem_optionKeys_of_mayWrite ht] at hkey
    exact Bool.eq_false_iff.mpr hkey
  rows_kept := by
    intro p hp hother
    refine List.mem_filter.mpr ⟨hp, ?_⟩
    rcases hother with htarget | htopic
    · simp [htarget]
    · simp [htopic]
  options_kept := by
    intro p hp hother
    refine List.mem_filter.mpr ⟨hp, ?_⟩
    rcases hother with huser | ⟨t, ht, htopic⟩
    · simp [huser]
    · have hkey : p.2.key.key ∉ topics.optionKeys := by
        rw [Topics.mem_optionKeys_of_mayWrite ht, htopic]
        exact Bool.false_ne_true
      simp [hkey]
  settings_order := List.filter_sublist
  options_order := List.filter_sublist

theorem Reachable.calls {config : Config} {w : World} (h : Reachable config w)
    (changes : List Change) : Reachable config (Change.worldAfter config w changes) := by
  induction changes generalizing w with
  | nil => exact h
  | cons ch rest ih => exact ih (h.call ch)

theorem result_erase {s : MemoryStore} (hoptions : s.refuses ≠ some "deleteUserOptions")
    (hsettings : s.refuses ≠ some "deleteSettingsForTarget") {user : String} {topics : Topics} :
    (Change.erase user topics).result s = .ok () := by
  simp only [Change.result, Change.deed, Deed.writes, erasure, MemoryStore.transact,
    MemoryStore.applyAll, Write.name, MemoryStore.apply, hoptions, hsettings, if_false]
  rfl

/-- Complete and confined erasure.  Take any surroundings that calls lead to, and any user.  Unless
the store refuses one of the two writes, the call that erases the user's preferences goes well.  If
it goes well, and topics are given, no preference of the user about one of them is left, and no
option of the user that some update about one of them could have written; all else is as it was, in
its order: whatever other users and all teams have, and the user's own about other topics.  If all
topics are meant, nothing at all of the user is left. -/
theorem erased_exactly (config : Config) {w : World} (h : Reachable config w) (user : String)
    (topics : Topics) :
    let s := w.memory.preferences
    let s' := ((Change.erase user topics).world config w).memory.preferences
    let st := (((Change.erase user topics).program config).turn w).1
    (s.refuses ≠ some "deleteUserOptions" → s.refuses ≠ some "deleteSettingsForTarget" →
      st = .ended (.ok ())) ∧
    (st = .ended (.ok ()) → Erased user topics s s' ∧
      (topics = .every → (∀ row ∈ rows s'.settings, row.key.target ≠ ⟨.user, user⟩) ∧
        ∀ o ∈ rows s'.options, o.key.user ≠ user)) := by
  intro s s' st
  obtain ⟨hturn, hafter, _⟩ := (Change.erase user topics).turn_program config w
  have hst : st = .ended ((Change.erase user topics).result s) := hturn
  have hs' : s' = (Change.erase user topics).after s := hafter
  rw [hst]
  constructor
  · intro hoptions hsettings
    rw [result_erase hoptions hsettings]
  · intro hok
    have hdone : s' = (Deed.erase user topics).done s := by
      rcases (Change.erase user topics).after_cases s with ⟨d, hdeed, _, hdone⟩ |
        ⟨_, _, hresult, _⟩ | ⟨_, _, hresult, _⟩
      · cases hdeed
        rw [hs', hdone]
      · rw [hresult] at hok
        cases hok
      · rw [hresult] at hok
        cases hok
    have herased : Erased user topics s s' := by
      rw [hdone]
      exact erased_done s user topics
    refine ⟨herased, ?_⟩
    rintro rfl
    constructor
    · intro row hrow htarget
      cases herased.rows_gone row hrow htarget
    · intro o ho huser
      obtain ⟨name, hp⟩ := Assoc.mem_rows.mp ho
      obtain ⟨t, ht⟩ := h.written _ (herased.options_order.subset hp)
      cases herased.options_gone o ho huser t ht

/-- A user and a team of one identity, and another user: choices about issue alerts and others. -/
def namesakeCalls : List Change :=
  [.set .email .issueAlerts .always ⟨some "7", none, none, none⟩,
    .set .slack .issueAlerts .never ⟨some "7", none, some "p", none⟩,
    .set .email .deploy .always ⟨some "7", none, none, none⟩,
    .set .email .issueAlerts .always ⟨none, some "7", some "p", none⟩,
    .set .email .issueAlerts .never ⟨some "8", none, none, none⟩]

/-- Both options of the user about issue alerts are gone.  The deployments, the team and the other
user stay. -/
theorem erased_namesakeCalls :
    let w := Change.worldAfter .blank .fresh namesakeCalls
    let s := w.memory.preferences
    let s' := ((Change.erase "7" (.one .issueAlerts)).world .blank w).memory.preferences
    Erased "7" (.one .issueAlerts) s s' ∧
      (rows s.options).map (fun o => (o.key.user, o.key.key)) =
        [("7", "subscribe_by_default"), ("7", "mail:alert"), ("7", "deploy-emails"),
          ("8", "subscribe_by_default")] ∧
      (rows s'.options).map (fun o => (o.key.user, o.key.key)) =
        [("7", "deploy-emails"), ("8", "subscribe_by_default")] ∧
      (rows s'.settings).map (fun row => row.key.target) =
        [⟨.user, "7"⟩, ⟨.team, "7"⟩, ⟨.user, "8"⟩] := by
  have hreachable : Reachable .blank (Change.worldAfter .blank .fresh namesakeCalls) :=
    (Reachable.start rfl rfl).calls namesakeCalls
  obtain ⟨hwell, herased⟩ := erased_exactly .blank hreachable "7" (.one .issueAlerts)
  have hended := hwell (by decide +kernel) (by decide +kernel)
  refine ⟨(herased hended).1, ?_, ?_, ?_⟩
  · decide +kernel
  · decide +kernel
  · decide +kernel

end AlertRelay.Preference
