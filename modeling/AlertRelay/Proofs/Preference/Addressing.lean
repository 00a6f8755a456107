import AlertRelay.Proofs.Preference.Plan

/-!
Where the preferences of users and the options that stand for them are kept.

Coordinates of a user and a topic with an older form address one setting and one option, whatever
is asked of them (`Addresses`).  Calls from one provider are about the same setting exactly if they
are about the same option, and calls about different topics are never about the same option
(`same_setting_iff_same_option`).
-/

namespace AlertRelay.Preference

/-- The setting and the option that coordinates and a topic stand for: what is looked up for them,
what is taken away for them, and what an update about them stores. -/
structure Addresses (provider : Provider) (topic : Topic) (c : Coordinates) (k : Key)
    (o : OptionKey) : Prop where
  key : c.key provider topic = .ok k
  option : c.optionKey? (topic.optionKeyFor? c.project.isSome) = some o
  removed : removal provider topic c = .ok [.dropSetting k, .dropOption o]
  stored : ∀ choice, topic.allows choice = true → ∃ value,
    topic.option? choice c.project.isSome = some (o.key, value) ∧
    update provider topic choice c = .ok (.stored k [.putSetting k choice, .putOption o value])

namespace Coordinates

variable {c : Coordinates}

/-- Where there is a user there is a scope. -/
theorem exists_hasScope {user : String} (huser : c.user = some user) : ∃ s, c.HasScope s := by
  cases hproject : c.project with
  | some id => exact ⟨_, .project hproject⟩
  | none =>
      cases horganization : c.organization with
      | some id => exact ⟨_, .organization hproject horganization⟩
      | none => exact ⟨_, .user hproject horganization huser⟩

/-- A preference that coordinates name and that applies everywhere for a user is that user's. -/
theorem isOwn_of_key {provider : Provider} {topic : Topic} {k : Key}
    (h : c.key provider topic = .ok k) : k.IsOwn := by
  obtain ⟨target, scope, htarget, hscope, rfl⟩ := key_eq_ok_iff.mp h
  intro hkind
  cases hscope with
  | project hproject => cases hkind
  | organization hproject horganization => cases hkind
  | user hproject horganization huser =>
      cases htarget with
      | user huser' hteam =>
          have hsame := Option.some.inj (huser'.symm.trans huser)
          rw [hsame]
      | team huser' hteam => cases huser'.symm.trans huser

end Coordinates

namespace Addresses

variable {provider : Provider} {topic : Topic} {c : Coordinates} {k : Key} {o : OptionKey}

/-- Calls with a key and an option key write under these two only. -/
theorem of_keys (hkey : c.key provider topic = .ok k)
    (hoption : c.optionKey? (topic.optionKeyFor? c.project.isSome) = some o)
    (hname : topic.optionKeyFor? c.project.isSome = some o.key) :
    Addresses provider topic c k o where
  key := hkey
  option := hoption
  removed := by
    rw [removal, keyOf_eq_ok_iff.mpr hkey]
    simp only [hoption, Option.map_some, Option.toList_some]
  stored := by
    intro choice hallows
    have hfirst := (Topic.option?_map_fst hallows c.project.isSome).trans hname
    obtain ⟨⟨name, value⟩, hkept, rfl⟩ := Option.map_eq_some_iff.mp hfirst
    rw [hname] at hoption
    refine ⟨value, hkept, ?_⟩
    rw [update, if_neg (Topic.ne_inherit_of_allows hallows), if_pos hallows,
      keyOf_eq_ok_iff.mpr hkey]
    simp only [storing, hkept, Option.map_some, hoption]

/-- The option is the one that stands for the setting. -/
theorem optionKey?_eq (h : Addresses provider topic c k o) : k.optionKey? = some o := by
  obtain ⟨-, rfl, hproject, hsame⟩ := Coordinates.of_key h.key
  rw [Key.optionKey?, hproject, hsame]
  exact h.option

end Addresses

/-- Coordinates of a user address a setting of the user and an option if the topic has an older
form. -/
theorem exists_addresses (provider : Provider) {topic : Topic}
    (htopic : topic.optionKey?.isSome) {c : Coordinates} {user : String}
    (hc : c.HasTarget ⟨.user, user⟩) :
    ∃ scope o, Addresses provider topic c ⟨provider, topic, ⟨.user, user⟩, scope⟩ o := by
  have huser : c.user = some user := by
    cases hc with
    | user huser hteam => exact huser
  obtain ⟨scope, hscope⟩ := Coordinates.exists_hasScope huser
  have hkey : c.key provider topic = .ok ⟨provider, topic, ⟨.user, user⟩, scope⟩ :=
    Coordinates.key_eq_ok_iff.mpr ⟨_, _, hc, hscope, rfl⟩
  obtain ⟨name, hname⟩ : ∃ name, topic.optionKeyFor? c.project.isSome = some name := by
    apply Option.isSome_iff_exists.mp
    rw [Topic.isSome_optionKeyFor?]
    exact htopic
  have hoption := (Coordinates.optionKey?_eq_some huser).mpr ⟨name, hname, rfl⟩
  exact ⟨scope, _, Addresses.of_keys hkey hoption hname⟩

/-- Calls about users and topics with an older form, from one provider or from two.  Each of them is
about one setting and one option.  They are about the same setting exactly if they come from one
provider and are about the same option; and they are about the same option exactly if topic, user
and scope are the same, so that calls about different topics never are. -/
theorem same_setting_iff_same_option (provider other : Provider) {t u : Topic}
    (ht : t.optionKey?.isSome) (hu : u.optionKey?.isSome) {c d : Coordinates} {a b : String}
    (hc : c.HasTarget ⟨.user, a⟩) (hd : d.HasTarget ⟨.user, b⟩) :
    ∃ k o l p, Addresses provider t c k o ∧ Addresses other u d l p ∧
      (k = l ↔ provider = other ∧ o = p) ∧
      (o = p ↔ t = u ∧ a = b ∧ k.scope = l.scope) := by
  obtain ⟨scope, o, ho⟩ := exists_addresses provider ht hc
  obtain ⟨scope', p, hp⟩ := exists_addresses other hu hd
  have hko := ho.optionKey?_eq
  have hlp := hp.optionKey?_eq
  have hoption : o = p ↔ t = u ∧ a = b ∧ scope = scope' := by
    constructor
    · rintro rfl
      obtain ⟨htarget, htopic, hscope⟩ :=
        Key.of_optionKey?_eq_some (Coordinates.isOwn_of_key ho.key) hko
      obtain ⟨htarget', htopic', hscope'⟩ :=
        Key.of_optionKey?_eq_some (Coordinates.isOwn_of_key hp.key) hlp
      have huser := congrArg Target.id (htarget.trans htarget'.symm)
      exact ⟨Topic.eq_of_optionKeyFor? htopic htopic', huser, hscope.trans hscope'.symm⟩
    · -- The option of a preference does not depend on the provider.
      rintro ⟨rfl, rfl, rfl⟩
      exact Option.some.inj (hko.symm.trans hlp)
  refine ⟨_, o, _, p, ho, hp, ?_, hoption⟩
  rw [hoption]
  simp only [Key.mk.injEq, Target.mk.injEq, true_and]

/-- In a project it makes no difference which organization is named. -/
theorem same_option_in_project :
    ∃ k o l p, Addresses .slack .issueAlerts ⟨some "u|1", none, some "p1", some "o1"⟩ k o ∧
      Addresses .slack .issueAlerts ⟨some "u|1", none, some "p1", none⟩ l p ∧ k = l ∧ o = p := by
  have hissue : Topic.issueAlerts.optionKey?.isSome := by decide +kernel
  have hc : Coordinates.HasTarget ⟨some "u|1", none, some "p1", some "o1"⟩ ⟨.user, "u|1"⟩ :=
    .user rfl rfl
  have hd : Coordinates.HasTarget ⟨some "u|1", none, some "p1", none⟩ ⟨.user, "u|1"⟩ :=
    .user rfl rfl
  obtain ⟨k, o, l, p, ho, hp, hsetting, hoption⟩ :=
    same_setting_iff_same_option .slack .slack hissue hissue hc hd
  have hk : (⟨.slack, .issueAlerts, ⟨.user, "u|1"⟩, ⟨.project, "p1"⟩⟩ : Key) = k :=
    Except.ok.inj ho.key
  have hl : (⟨.slack, .issueAlerts, ⟨.user, "u|1"⟩, ⟨.project, "p1"⟩⟩ : Key) = l :=
    Except.ok.inj hp.key
  have hsame : k = l := hk.symm.trans hl
  exact ⟨k, o, l, p, ho, hp, hsame, (hsetting.mp hsame).2⟩

end AlertRelay.Preference
