import AlertRelay.Proofs.Preference.Change
import AlertRelay.Proofs.Preference.RowNames

/-!
Keys of preferences and the keys of the options that stand for them.

Only preferences of users about topics with an older form have an option.  Among the keys of one
provider that coordinates can name the option key tells which preference it stands for
(`Key.eq_of_optionKey?`), and an erasure names the options of exactly the preferences that it
erases (`Topics.mem_optionKeys_iff`).
-/

namespace AlertRelay.Preference

namespace Topic

/-- The topics with an older form, each with the option keys that it has. -/
theorem optionKeyFor?_cases {t : Topic} {inProject : Bool} {key : String}
    (h : t.optionKeyFor? inProject = some key) :
    (t = deploy ∧ key = "deploy-emails") ∨
    (t = issueAlerts ∧ (key = "mail:alert" ∨ key = issueAlertsDefaultKey)) ∨
    (t = workflow ∧ key = "workflow:notifications") := by
  by_cases hdeploy : t = deploy
  · subst hdeploy
    have hne : deploy ≠ issueAlerts := by decide +kernel
    simp only [optionKeyFor?, optionKey?, if_true, hne, false_and, if_false] at h
    exact Or.inl ⟨rfl, (Option.some.inj h).symm⟩
  · by_cases hissue : t = issueAlerts
    · subst hissue
      simp only [optionKeyFor?, optionKey?, if_neg hdeploy, if_true, true_and] at h
      refine Or.inr (Or.inl ⟨rfl, ?_⟩)
      split at h
      · exact Or.inr (Option.some.inj h).symm
      · exact Or.inl (Option.some.inj h).symm
    · by_cases hworkflow : t = workflow
      · simp only [optionKeyFor?, optionKey?, if_neg hdeploy, if_pos hworkflow, hissue,
          false_and, if_false] at h
        exact Or.inr (Or.inr ⟨hworkflow, (Option.some.inj h).symm⟩)
      · simp only [optionKeyFor?, optionKey?, if_neg hdeploy, if_neg hissue,
          if_neg hworkflow, reduceCtorEq] at h

theorem mem_all_of_optionKeyFor? {t : Topic} {inProject : Bool} {key : String}
    (h : t.optionKeyFor? inProject = some key) : t ∈ all ∧ key ∈ allOptionKeys := by
  rcases optionKeyFor?_cases h with ⟨rfl, rfl⟩ | ⟨rfl, rfl | rfl⟩ | ⟨rfl, rfl⟩ <;>
    exact ⟨by decide +kernel, by decide⟩

/-- A topic with an older form has an option key inside and outside of projects. -/
theorem isSome_optionKeyFor? (t : Topic) (inProject : Bool) :
    (t.optionKeyFor? inProject).isSome = t.optionKey?.isSome := by
  unfold optionKeyFor?
  cases t.optionKey? with
  | none => rfl
  | some key =>
      dsimp only
      split <;> rfl

/-- An option key belongs to one topic. -/
theorem eq_of_optionKeyFor? {t u : Topic} {inProject inOther : Bool} {key : String}
    (ht : t.optionKeyFor? inProject = some key) (hu : u.optionKeyFor? inOther = some key) :
    t = u := by
  rcases optionKeyFor?_cases ht with ⟨rfl, rfl⟩ | ⟨rfl, rfl | rfl⟩ | ⟨rfl, rfl⟩ <;>
    rcases optionKeyFor?_cases hu with ⟨rfl, hkey⟩ | ⟨rfl, hkey | hkey⟩ | ⟨rfl, hkey⟩ <;>
    first
    | rfl
    | exact absurd hkey (by decide)

/-- The option keys of a topic are those that it has inside and outside of projects. -/
theorem mem_optionKeys_iff {t : Topic} {key : String} :
    key ∈ t.optionKeys ↔ ∃ inProject, t.optionKeyFor? inProject = some key := by
  unfold optionKeys optionKeyFor?
  cases t.optionKey? with
  | none => simp
  | some own =>
      by_cases hissue : t = issueAlerts
      · simp only [hissue, true_and, List.mem_cons, List.not_mem_nil, or_false,
          Bool.exists_bool, Bool.not_false, Bool.not_true, Bool.false_eq_true, if_true, if_false,
          Option.some.injEq]
        exact ⟨fun h => (h.imp Eq.symm Eq.symm).symm, fun h => (h.imp Eq.symm Eq.symm).symm⟩
      · simp only [hissue, false_and, if_false, List.mem_singleton, exists_const,
          Option.some.injEq]
        exact eq_comm

end Topic

/-- An erasure names an option key of a topic exactly if the topic is meant. -/
theorem Topics.mem_optionKeys_iff {topics : Topics} {t : Topic} {inProject : Bool}
    {key : String} (h : t.optionKeyFor? inProject = some key) :
    key ∈ topics.optionKeys ↔ topics.includes t = true := by
  cases topics with
  | every =>
      simp only [Topics.optionKeys, Topics.includes, iff_true]
      exact (Topic.mem_all_of_optionKeyFor? h).2
  | none => simp [Topics.optionKeys, Topics.includes]
  | one other =>
      simp only [Topics.optionKeys, Topics.includes, beq_iff_eq, Topic.mem_optionKeys_iff]
      constructor
      · rintro ⟨inOther, hother⟩
        exact Topic.eq_of_optionKeyFor? h hother
      · rintro rfl
        exact ⟨inProject, h⟩

theorem Coordinates.optionKey?_eq_some {c : Coordinates} {name : Option String} {o : OptionKey}
    {user : String} (huser : c.user = some user) :
    c.optionKey? name = some o ↔ ∃ key, name = some key ∧
      ⟨user, key, c.project, if c.project.isSome then none else c.organization⟩ = o := by
  unfold optionKey?
  rw [huser]
  cases name <;> simp

/-- Where an option applies: in its project, else in its organization, else everywhere for its
user. -/
def OptionKey.scope (o : OptionKey) : Scope :=
  match o.project, o.organization with
  | some id, _ => ⟨.project, id⟩
  | none, some id => ⟨.organization, id⟩
  | none, none => ⟨.user, o.user⟩

namespace Key

/-- A preference that applies everywhere for a user is that user's own. -/
def IsOwn (k : Key) : Prop :=
  k.scope.kind = .user → k.target = ⟨.user, k.scope.id⟩

/-- A preference with an option is its user's, about the topic of the option, and applies where
the option does. -/
theorem of_optionKey?_eq_some {k : Key} (hown : k.IsOwn) {o : OptionKey}
    (h : k.optionKey? = some o) :
    k.target = ⟨.user, o.user⟩ ∧ k.topic.optionKeyFor? o.project.isSome = some o.key ∧
      k.scope = o.scope := by
  obtain ⟨provider, topic, ⟨targetKind, targetId⟩, ⟨scopeKind, scopeId⟩⟩ := k
  cases targetKind with
  | team => cases h
  | user =>
      cases scopeKind with
      | user =>
          obtain rfl : targetId = scopeId := congrArg Target.id (hown rfl)
          obtain ⟨key, hkey, rfl⟩ : ∃ key, topic.optionKeyFor? false = some key ∧
              ⟨targetId, key, none, none⟩ = o :=
            (Coordinates.optionKey?_eq_some rfl).mp h
          exact ⟨rfl, hkey, rfl⟩
      | organization =>
          obtain ⟨key, hkey, rfl⟩ : ∃ key, topic.optionKeyFor? false = some key ∧
              ⟨targetId, key, none, some scopeId⟩ = o :=
            (Coordinates.optionKey?_eq_some rfl).mp h
          exact ⟨rfl, hkey, rfl⟩
      | project =>
          obtain ⟨key, hkey, rfl⟩ : ∃ key, topic.optionKeyFor? true = some key ∧
              ⟨targetId, key, some scopeId, none⟩ = o :=
            (Coordinates.optionKey?_eq_some rfl).mp h
          exact ⟨rfl, hkey, rfl⟩

/-- Preferences of one provider with the same option are one preference. -/
theorem eq_of_optionKey? {k l : Key} (hk : k.IsOwn) (hl : l.IsOwn)
    (hprovider : k.provider = l.provider) {o : OptionKey} (hko : k.optionKey? = some o)
    (hlo : l.optionKey? = some o) : k = l := by
  obtain ⟨hktarget, hktopic, hkscope⟩ := of_optionKey?_eq_some hk hko
  obtain ⟨hltarget, hltopic, hlscope⟩ := of_optionKey?_eq_some hl hlo
  have htopic : k.topic = l.topic := Topic.eq_of_optionKeyFor? hktopic hltopic
  have htarget : k.target = l.target := hktarget.trans hltarget.symm
  have hscope : k.scope = l.scope := hkscope.trans hlscope.symm
  obtain ⟨provider, topic, target, scope⟩ := k
  obtain ⟨provider', topic', target', scope'⟩ := l
  simp only at hprovider htopic htarget hscope
  subst hprovider htopic htarget hscope
  rfl

end Key

end AlertRelay.Preference
