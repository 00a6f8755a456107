import AlertRelay.Proofs.Preference.Tables
import Mathlib.Logic.Function.Basic

/-!
The preferences in memory are a plan: a choice for every preference that there may be.

`Plan.Step` says what a call is to do to a plan and what is to come of it, without any rows.
Whatever calls are made of a store that begins without rows, each of them comes out as its step
does, and the choices in force afterwards are those of the plan (`memory_refines_plan`).
-/

namespace AlertRelay.Preference

open Assoc (rows)

namespace Coordinates

/-- The target that coordinates mean: their user or their team, if they have no more than one
of them. -/
inductive HasTarget (c : Coordinates) : Target → Prop where
  | user {id : String} (huser : c.user = some id) (hteam : c.team = none) :
      HasTarget c ⟨.user, id⟩
  | team {id : String} (huser : c.user = none) (hteam : c.team = some id) :
      HasTarget c ⟨.team, id⟩

/-- The scope that coordinates mean: their project, else their organization, else their user. -/
inductive HasScope (c : Coordinates) : Scope → Prop where
  | project {id : String} (hproject : c.project = some id) : HasScope c ⟨.project, id⟩
  | organization {id : String} (hproject : c.project = none)
      (horganization : c.organization = some id) : HasScope c ⟨.organization, id⟩
  | user {id : String} (hproject : c.project = none) (horganization : c.organization = none)
      (huser : c.user = some id) : HasScope c ⟨.user, id⟩

/-- Why coordinates mean no target, or a target but no scope. -/
inductive HasFault (c : Coordinates) : CoordinatesFault → Prop where
  | userAndTeam (huser : c.user.isSome) (hteam : c.team.isSome) : HasFault c .userAndTeam
  | noTarget (huser : c.user = none) (hteam : c.team = none) : HasFault c .noTarget
  | noScope (huser : c.user = none) (hteam : c.team.isSome) (hproject : c.project = none)
      (horganization : c.organization = none) : HasFault c .noScope

/-- Coordinates name the key of the target and the scope that they mean. -/
theorem key_eq_ok_iff {c : Coordinates} {provider : Provider} {topic : Topic} {k : Key} :
    c.key provider topic = .ok k ↔
      ∃ target scope, c.HasTarget target ∧ c.HasScope scope ∧
        k = ⟨provider, topic, target, scope⟩ := by
  constructor
  · intro h
    obtain ⟨user, team, project, organization⟩ := c
    cases user <;> cases team <;> cases project <;> cases organization <;>
      simp only [key, target, scope, reduceCtorEq, Except.ok.injEq] at h <;> subst h <;>
      refine ⟨_, _, ?_, ?_, rfl⟩ <;> constructor <;> rfl
  · rintro ⟨target, scope, htarget, hscope, rfl⟩
    have htarget' : c.target = .ok target := by
      cases htarget with
      | user huser hteam => simp only [Coordinates.target, huser, hteam]
      | team huser hteam => simp only [Coordinates.target, huser, hteam]
    have hscope' : c.scope = .ok scope := by
      cases hscope with
      | project hproject => simp only [Coordinates.scope, hproject]
      | organization hproject horganization =>
          simp only [Coordinates.scope, hproject, horganization]
      | user hproject horganization huser =>
          simp only [Coordinates.scope, hproject, horganization, huser]
    simp only [key, htarget', hscope']

theorem key_eq_error_iff {c : Coordinates} {provider : Provider} {topic : Topic}
    {fault : CoordinatesFault} : c.key provider topic = .error fault ↔ c.HasFault fault := by
  constructor
  · intro h
    obtain ⟨user, team, project, organization⟩ := c
    cases user <;> cases team <;> cases project <;> cases organization <;>
      simp only [key, target, scope, reduceCtorEq, Except.error.injEq] at h <;> subst h <;>
      constructor <;> rfl
  · intro h
    obtain ⟨user, team, project, organization⟩ := c
    cases h with
    | userAndTeam huser hteam =>
        obtain ⟨u, rfl⟩ := Option.isSome_iff_exists.mp huser
        obtain ⟨t, rfl⟩ := Option.isSome_iff_exists.mp hteam
        rfl
    | noTarget huser hteam => cases huser; cases hteam; rfl
    | noScope huser hteam hproject horganization =>
        obtain ⟨t, rfl⟩ := Option.isSome_iff_exists.mp hteam
        cases huser
        cases hproject
        cases horganization
        rfl

/-- Coordinates mean a target and a scope, or have a fault. -/
theorem means_or_hasFault (c : Coordinates) :
    (∃ target scope, c.HasTarget target ∧ c.HasScope scope) ∨ ∃ fault, c.HasFault fault := by
  cases hkey : c.key .email .general with
  | ok k =>
      obtain ⟨target, scope, htarget, hscope, _⟩ := key_eq_ok_iff.mp hkey
      exact Or.inl ⟨target, scope, htarget, hscope⟩
  | error fault => exact Or.inr ⟨fault, key_eq_error_iff.mp hkey⟩

end Coordinates

/-- A choice for every preference that there may be. -/
abbrev Plan := Key → Choice

namespace Plan

/-- The plan without choices. -/
def start : Plan := fun _ => .inherit

/-- A plan without the choices of a user about topics, from whatever provider and wherever they
apply. -/
def erase (m : Plan) (user : String) (topics : Topics) : Plan := fun k =>
  if k.target = ⟨.user, user⟩ ∧ topics.includes k.topic = true then .inherit else m k

/-- What a call is to do to a plan, with what is to come of the call.  A call that is refused
leaves the plan as it is. -/
inductive Step (m : Plan) : Change → Except Failure Unit → Plan → Prop where
  | stored {provider : Provider} {topic : Topic} {choice : Choice} {c : Coordinates}
      {target : Target} {scope : Scope} (hallows : topic.allows choice = true)
      (htarget : c.HasTarget target) (hscope : c.HasScope scope) :
      Step m (.set provider topic choice c) (.ok ())
        (Function.update m ⟨provider, topic, target, scope⟩ choice)
  | inherited {provider : Provider} {topic : Topic} {c : Coordinates} {target : Target}
      {scope : Scope} (htarget : c.HasTarget target) (hscope : c.HasScope scope) :
      Step m (.set provider topic .inherit c) (.ok ())
        (Function.update m ⟨provider, topic, target, scope⟩ .inherit)
  | removed {provider : Provider} {topic : Topic} {c : Coordinates} {target : Target}
      {scope : Scope} (htarget : c.HasTarget target) (hscope : c.HasScope scope) :
      Step m (.remove provider topic c) (.ok ())
        (Function.update m ⟨provider, topic, target, scope⟩ .inherit)
  | erased {user : String} {topics : Topics} :
      Step m (.erase user topics) (.ok ()) (m.erase user topics)
  | notAllowed {provider : Provider} {topic : Topic} {choice : Choice} {c : Coordinates}
      (hchoice : choice ≠ .inherit) (hallows : topic.allows choice = false) :
      Step m (.set provider topic choice c) (.error (.refused (.notAllowed topic choice))) m
  | notSet {provider : Provider} {topic : Topic} {choice : Choice} {c : Coordinates}
      {fault : CoordinatesFault} (hchoice : choice = .inherit ∨ topic.allows choice = true)
      (hfault : c.HasFault fault) :
      Step m (.set provider topic choice c) (.error (.refused (.coordinates fault))) m
  | notRemoved {provider : Provider} {topic : Topic} {c : Coordinates}
      {fault : CoordinatesFault} (hfault : c.HasFault fault) :
      Step m (.remove provider topic c) (.error (.refused (.coordinates fault))) m

/-- A plan after a deed. -/
def after (m : Plan) : Deed → Plan
  | .put key choice => Function.update m key choice
  | .drop key => Function.update m key .inherit
  | .erase user topics => m.erase user topics

/-- Every call has a step. -/
theorem exists_step (m : Plan) (ch : Change) : ∃ r m', m.Step ch r m' := by
  cases ch with
  | erase user topics => exact ⟨_, _, .erased⟩
  | remove provider topic c =>
      rcases c.means_or_hasFault with ⟨target, scope, htarget, hscope⟩ | ⟨fault, hfault⟩
      · exact ⟨_, _, .removed htarget hscope⟩
      · exact ⟨_, _, .notRemoved hfault⟩
  | set provider topic choice c =>
      by_cases hinherit : choice = .inherit
      · subst hinherit
        rcases c.means_or_hasFault with ⟨target, scope, htarget, hscope⟩ | ⟨fault, hfault⟩
        · exact ⟨_, _, .inherited htarget hscope⟩
        · exact ⟨_, _, .notSet (Or.inl rfl) hfault⟩
      · cases hallows : topic.allows choice with
        | false => exact ⟨_, _, .notAllowed hinherit hallows⟩
        | true =>
            rcases c.means_or_hasFault with ⟨target, scope, htarget, hscope⟩ | ⟨fault, hfault⟩
            · exact ⟨_, _, .stored hallows htarget hscope⟩
            · exact ⟨_, _, .notSet (Or.inr hallows) hfault⟩

/-- A step is that of the deed of its call. -/
theorem Step.deed {m m' : Plan} {ch : Change} {r : Except Failure Unit} (h : m.Step ch r m') :
    (∃ d, ch.deed = .ok d ∧ r = .ok () ∧ m' = m.after d) ∨
    (∃ refusal, ch.deed = .error refusal ∧ r = .error (.refused refusal) ∧ m' = m) := by
  have hnamed : ∀ {provider topic c target scope}, Coordinates.HasTarget c target →
      Coordinates.HasScope c scope →
      keyOf provider topic c = .ok ⟨provider, topic, target, scope⟩ :=
    fun htarget hscope =>
      keyOf_eq_ok_iff.mpr (Coordinates.key_eq_ok_iff.mpr ⟨_, _, htarget, hscope, rfl⟩)
  have hunnamed : ∀ {provider topic c fault}, Coordinates.HasFault c fault →
      keyOf provider topic c = .error (.coordinates fault) := by
    intro provider topic c fault hfault
    simp only [keyOf, Coordinates.key_eq_error_iff.mpr hfault]
  cases h with
  | stored hallows htarget hscope =>
      refine Or.inl ⟨.put _ _, ?_, rfl, rfl⟩
      simp only [Change.deed, if_neg (Topic.ne_inherit_of_allows hallows), hallows, if_true,
        hnamed htarget hscope, Except.map]
  | inherited htarget hscope =>
      refine Or.inl ⟨.drop _, ?_, rfl, rfl⟩
      simp only [Change.deed, if_true, hnamed htarget hscope, Except.map]
  | removed htarget hscope =>
      refine Or.inl ⟨.drop _, ?_, rfl, rfl⟩
      simp only [Change.deed, hnamed htarget hscope, Except.map]
  | erased => exact Or.inl ⟨.erase _ _, rfl, rfl, rfl⟩
  | notAllowed hchoice hallows =>
      refine Or.inr ⟨_, ?_, rfl, rfl⟩
      simp only [Change.deed, if_neg hchoice, hallows, Bool.false_eq_true, if_false]
  | notSet hchoice hfault =>
      refine Or.inr ⟨_, ?_, rfl, rfl⟩
      rcases hchoice with rfl | hallows
      · simp only [Change.deed, if_true, hunnamed hfault, Except.map]
      · simp only [Change.deed, if_neg (Topic.ne_inherit_of_allows hallows), hallows, if_true,
          hunnamed hfault, Except.map]
  | notRemoved hfault =>
      refine Or.inr ⟨_, ?_, rfl, rfl⟩
      simp only [Change.deed, hunnamed hfault, Except.map]

/-- What a call is to do to a plan is determined. -/
theorem Step.unique {m m' m'' : Plan} {ch : Change} {r r' : Except Failure Unit}
    (h : m.Step ch r m') (h' : m.Step ch r' m'') : r = r' ∧ m' = m'' := by
  rcases h.deed with ⟨d, hdeed, rfl, rfl⟩ | ⟨refusal, hdeed, rfl, rfl⟩ <;>
    rcases h'.deed with ⟨d', hdeed', rfl, rfl⟩ | ⟨refusal', hdeed', rfl, rfl⟩ <;>
    cases hdeed.symm.trans hdeed' <;> exact ⟨rfl, rfl⟩

/-- A choice is in a plan after a deed if the deed leaves it behind, or if it was there and the
deed does not touch it. -/
theorem after_eq_iff (m : Plan) {d : Deed} (hd : d.Plain) (row : SettingRow) :
    (m.after d row.key = row.choice ∧ row.choice ≠ .inherit) ↔
      d.row? = some row ∨
        ((m row.key = row.choice ∧ row.choice ≠ .inherit) ∧ ¬ d.Touches row.key) := by
  obtain ⟨key, choice⟩ := row
  cases d with
  | put key' choice' =>
      simp only [after, Deed.row?, Deed.Touches, Option.some.injEq, SettingRow.mk.injEq]
      by_cases hkey : key = key'
      · subst hkey
        rw [Function.update_self]
        constructor
        · rintro ⟨hchoice, _⟩
          exact Or.inl ⟨rfl, hchoice⟩
        · rintro (⟨_, rfl⟩ | ⟨_, hne⟩)
          · exact ⟨rfl, Topic.ne_inherit_of_allows hd.2⟩
          · exact absurd rfl hne
      · rw [Function.update_of_ne hkey]
        simp [hkey, Ne.symm hkey]
  | drop key' =>
      simp only [after, Deed.row?, Deed.Touches, reduceCtorEq, false_or]
      by_cases hkey : key = key'
      · subst hkey
        rw [Function.update_self]
        constructor
        · rintro ⟨rfl, hchoice⟩
          exact absurd rfl hchoice
        · rintro ⟨_, hne⟩
          exact absurd rfl hne
      · rw [Function.update_of_ne hkey]
        simp [hkey]
  | erase user topics =>
      simp only [after, erase, Deed.row?, Deed.Touches, reduceCtorEq, false_or]
      by_cases herased : key.target = ⟨.user, user⟩ ∧ topics.includes key.topic = true
      · rw [if_pos herased]
        constructor
        · rintro ⟨rfl, hchoice⟩
          exact absurd rfl hchoice
        · rintro ⟨_, hne⟩
          exact absurd herased hne
      · rw [if_neg herased]
        exact ⟨fun h => ⟨h, herased⟩, fun h => h.1⟩

/-- A store keeps a plan if it refuses nothing and its rows are the choices of the plan. -/
structure KeptBy (m : Plan) (s : MemoryStore) : Prop where
  sound : s.Sound
  refuses : s.refuses = none
  rows_iff : ∀ row, row ∈ rows s.settings ↔ m row.key = row.choice ∧ row.choice ≠ .inherit

theorem start_keptBy_empty : start.KeptBy .empty where
  sound := MemoryStore.sound_of_nil rfl rfl
  refuses := rfl
  rows_iff := by
    intro row
    constructor
    · intro hrow
      exact absurd hrow List.not_mem_nil
    · rintro ⟨hchoice, hne⟩
      exact absurd hchoice.symm hne

namespace KeptBy

variable {m : Plan} {s : MemoryStore}

theorem done (h : m.KeptBy s) {d : Deed} (hd : d.Plain) : (m.after d).KeptBy (d.done s) where
  sound := Deed.sound_done h.sound hd
  refuses := h.refuses
  rows_iff := by
    intro row
    rw [after_eq_iff m hd, ← h.rows_iff]
    exact Deed.mem_settings h.sound hd

/-- The choice that a store finds for a key is the one of the plan that it keeps. -/
theorem choice?_getD (h : m.KeptBy s) {k : Key} (hprovider : k.provider ∈ Provider.all)
    (htopic : k.topic ∈ Topic.all) : (s.choice? k).getD .inherit = m k := by
  cases hchoice : s.choice? k with
  | some choice =>
      have hrow := (h.sound.choice?_eq_some_iff hprovider htopic).mp hchoice
      exact ((h.rows_iff _).mp hrow).1.symm
  | none =>
      -- A choice of the plan would have a row, and the look-up would find it.
      by_contra hne
      have hrow : ⟨k, m k⟩ ∈ rows s.settings := (h.rows_iff ⟨k, m k⟩).mpr ⟨rfl, Ne.symm hne⟩
      rw [(h.sound.choice?_eq_some_iff hprovider htopic).mpr hrow] at hchoice
      cases hchoice

/-- Every stored row holds a choice, and one that can be made about its topic. -/
theorem choice_of_row (h : m.KeptBy s) {row : SettingRow} (hrow : row ∈ rows s.settings) :
    row.choice ≠ .inherit ∧ row.key.topic.allows row.choice = true :=
  ⟨((h.rows_iff row).mp hrow).2, h.sound.allowed row hrow⟩

end KeptBy

/-- Calls that are made one after the other, each of them in a turn of its own, with what they
do to a plan.  A call that fails leaves everything as it is. -/
inductive Run (config : Config) : World → Plan → List Change → World → Plan → Prop where
  | done {w : World} {m : Plan} : Run config w m [] w m
  | call {ch : Change} {rest : List Change} {w w' w'' : World} {m m' m'' : Plan}
      {r : Except Failure Unit} (hturn : (ch.program config).turn w = (.ended r, w'))
      (hstep : m.Step ch r m') (hfailed : r ≠ .ok () → w' = w)
      (hrest : Run config w' m' rest w'' m'') : Run config w m (ch :: rest) w'' m''

/-- Where calls lead and what they do to a plan is determined. -/
theorem Run.unique {config : Config} {w w' w'' : World} {m m' m'' : Plan}
    {changes : List Change} (h : Run config w m changes w' m')
    (h' : Run config w m changes w'' m'') : w' = w'' ∧ m' = m'' := by
  induction h with
  | done =>
      cases h'
      exact ⟨rfl, rfl⟩
  | call hturn hstep _ _ ih =>
      cases h' with
      | call hturn' hstep' _ hrest' =>
          obtain ⟨_, rfl⟩ := Prod.ext_iff.mp (hturn.symm.trans hturn')
          obtain ⟨_, rfl⟩ := hstep.unique hstep'
          exact ih hrest'

/-- One call comes out as its step does. -/
theorem KeptBy.exists_turn (config : Config) {w : World} {m : Plan}
    (h : m.KeptBy w.memory.preferences) {ch : Change} (hch : ch.Plain) :
    ∃ r w' m', (ch.program config).turn w = (.ended r, w') ∧ m.Step ch r m' ∧
      (r ≠ .ok () → w' = w) ∧ m'.KeptBy w'.memory.preferences := by
  obtain ⟨hresult, hafter, hsame⟩ := ch.turn_program config w
  have hturn : (ch.program config).turn w =
      (.ended (ch.result w.memory.preferences), ch.world config w) := Prod.ext hresult rfl
  obtain ⟨r, m', hstep⟩ := m.exists_step ch
  refine ⟨_, _, m', hturn, ?_⟩
  rcases ch.after_cases w.memory.preferences with
    ⟨d, hdeed, hok, hdone⟩ | ⟨refusal, hdeed, hrefused, _⟩ | ⟨name, hrefuses, _⟩
  · obtain ⟨_, hdeed', rfl, rfl⟩ | ⟨_, hdeed', _, _⟩ := hstep.deed
    · cases hdeed.symm.trans hdeed'
      refine ⟨hok ▸ hstep, fun hne => absurd hok hne, ?_⟩
      rw [Change.world, hafter, hdone]
      exact h.done (Change.deed_plain hch hdeed)
    · cases hdeed.symm.trans hdeed'
  · obtain ⟨_, hdeed', _, _⟩ | ⟨_, hdeed', rfl, rfl⟩ := hstep.deed
    · cases hdeed.symm.trans hdeed'
    · cases hdeed.symm.trans hdeed'
      have hworld : ch.world config w = w := hsame ⟨refusal, hdeed⟩
      exact ⟨hrefused ▸ hstep, fun _ => hworld, hworld.symm ▸ h⟩
  · -- A store that keeps a plan refuses no write.
    rw [h.refuses] at hrefuses
    cases hrefuses

theorem KeptBy.exists_keptBy (config : Config) {w : World} {m : Plan}
    (h : m.KeptBy w.memory.preferences) {changes : List Change}
    (hplain : ∀ ch ∈ changes, ch.Plain) :
    ∃ w' m', Run config w m changes w' m' ∧ m'.KeptBy w'.memory.preferences := by
  induction changes generalizing w m with
  | nil => exact ⟨w, m, .done, h⟩
  | cons ch rest ih =>
      obtain ⟨r, w', m', hturn, hstep, hfailed, hkept⟩ :=
        h.exists_turn config (hplain ch List.mem_cons_self)
      obtain ⟨w'', m'', hrun, hkept'⟩ :=
        ih hkept fun other hother => hplain other (List.mem_cons_of_mem ch hother)
      exact ⟨w'', m'', .call hturn hstep hfailed hrun, hkept'⟩

end Plan

/-- Whatever calls are made of a store without rows, each of them does to the plan what it is to
do, and comes out as it is to.  Afterwards the choices in force are those of the plan, for the
scope that coordinates mean, and only choices that can be made are stored. -/
theorem memory_refines_plan (config : Config) (w : World) (hempty : w.memory.preferences = .empty)
    (changes : List Change) (hplain : ∀ ch ∈ changes, ch.Plain) :
    ∃ w' m, Plan.Run config w Plan.start changes w' m ∧
      (∀ provider ∈ Provider.all, ∀ topic ∈ Topic.all, ∀ (c : Coordinates) (target : Target)
        (scope : Scope), c.HasTarget target → c.HasScope scope →
        (Store.memory.choiceFor config provider topic c).turn w' =
          (.ended (.ok (m ⟨provider, topic, target, scope⟩)), w')) ∧
      ∀ row ∈ rows w'.memory.preferences.settings,
        row.choice ≠ .inherit ∧ row.key.topic.allows row.choice = true := by
  have hstart : Plan.start.KeptBy w.memory.preferences := hempty ▸ Plan.start_keptBy_empty
  obtain ⟨w', m, hrun, hkept⟩ := hstart.exists_keptBy config hplain
  refine ⟨w', m, hrun, ?_, fun row hrow => hkept.choice_of_row hrow⟩
  intro provider hprovider topic htopic c target scope htarget hscope
  have hkey : c.key provider topic = .ok ⟨provider, topic, target, scope⟩ :=
    Coordinates.key_eq_ok_iff.mpr ⟨target, scope, htarget, hscope, rfl⟩
  rw [turn_choiceFor config hkey, hkept.choice?_getD hprovider htopic]

/-- Calls of every kind, two of them refused. -/
def mixedCalls : List Change :=
  [.set .slack .issueAlerts .always ⟨some "u1", none, some "p1", none⟩,
    .set .email .deploy .committedOnly ⟨none, some "t1", none, some "o1"⟩,
    .set .slack .issueAlerts .subscribeOnly ⟨some "u1", none, none, none⟩,
    .set .email .deploy .inherit ⟨none, some "t1", none, some "o1"⟩,
    .remove .slack .workflow ⟨some "u1", some "t1", none, none⟩,
    .erase "u1" (.one .issueAlerts)]

theorem memory_refines_plan_mixedCalls :
    ∃ w' m, Plan.Run Config.blank World.fresh Plan.start mixedCalls w' m ∧
      (∀ provider ∈ Provider.all, ∀ topic ∈ Topic.all, ∀ (c : Coordinates) (target : Target)
        (scope : Scope), c.HasTarget target → c.HasScope scope →
        (Store.memory.choiceFor Config.blank provider topic c).turn w' =
          (.ended (.ok (m ⟨provider, topic, target, scope⟩)), w')) ∧
      ∀ row ∈ rows w'.memory.preferences.settings,
        row.choice ≠ .inherit ∧ row.key.topic.allows row.choice = true :=
  memory_refines_plan Config.blank World.fresh rfl mixedCalls (by decide +kernel)

end AlertRelay.Preference
