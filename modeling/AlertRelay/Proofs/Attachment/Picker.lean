import AlertRelay.Attachment.Assembly
import AlertRelay.Proofs.Attachment.Identities
import AlertRelay.Proofs.Program.Execution

/-!
From the entries of a picker to what they stand for.

The value of an entry is the text of an actor's identity.  Picked values are read back, asked for
kind by kind, and what is found is kept under the texts of the identities again; so a value leads
back to the actor of its entry (`picked_leads_back`).
-/

namespace AlertRelay.Attachment

open Database Program

/-- The identities of a kind among texts are those whose texts are there, on one line. -/
theorem mem_idsOfKind {kind : ActorKind} {texts : List String} {id : String} :
    id ∈ idsOfKind kind texts ↔ (⟨kind, id⟩ : ActorId).text ∈ texts ∧ ActorId.OneLine id := by
  simp only [idsOfKind, List.mem_filterMap, Option.ite_none_right_eq_some, Option.some.injEq]
  constructor
  · rintro ⟨a, ⟨s, hs, ha⟩, rfl, rfl⟩
    obtain ⟨rfl, hline⟩ := ActorId.read?_eq_some_iff.mp ha
    exact ⟨hs, hline⟩
  · rintro ⟨hs, hline⟩
    exact ⟨⟨kind, id⟩, ⟨_, hs, ActorId.read?_eq_some_iff.mpr ⟨rfl, hline⟩⟩, rfl, rfl⟩

theorem mem_namedActors {texts : List String} {kind : ActorKind} {ids : List String} :
    (kind, ids) ∈ namedActors texts ↔ ids = idsOfKind kind texts ∧ ids ≠ [] := by
  have hkind : kind ∈ [ActorKind.user, .team] := by cases kind <;> decide
  unfold namedActors
  rw [List.mem_filterMap]
  constructor
  · rintro ⟨kind', -, h⟩
    split at h
    · cases h
    · rename_i hids
      cases h
      exact ⟨rfl, fun hnil => hids hnil⟩
  · rintro ⟨hsame, hids⟩
    refine ⟨kind, hkind, ?_⟩
    split
    · rename_i hnil
      exact absurd (hsame.trans hnil) hids
    · rw [hsame]

/-- Of several actors with one identity the last is kept. -/
theorem get?_foldl_put (text : String) (actors : List Actor) (kept : Assoc Actor) :
    Assoc.get? text (actors.foldl (fun found a => found.put a.identity.text a) kept) =
      (actors.filter (·.identity.text == text)).getLast?.or (Assoc.get? text kept) := by
  induction actors generalizing kept with
  | nil => rfl
  | cons a rest ih =>
      rw [List.foldl_cons, ih]
      by_cases htext : a.identity.text = text
      · have hput : Assoc.get? text (Assoc.put a.identity.text a kept) = some a := by
          rw [htext, Assoc.get?_put_self]
        rw [hput, List.filter_cons, if_pos (beq_iff_eq.mpr htext), List.getLast?_cons]
        cases (rest.filter (·.identity.text == text)).getLast? <;> rfl
      · rw [Assoc.get?_put_of_ne (Ne.symm htext), List.filter_cons, if_neg (mt beq_iff_eq.mp htext)]

/-- Where actors are told apart by their identities, each is kept under its own. -/
theorem get?_byIdentity {actors : List Actor}
    (hdistinct : ∀ a ∈ actors, ∀ b ∈ actors, a.identity.text = b.identity.text → a = b)
    {text : String} {a : Actor} :
    Assoc.get? text (byIdentity actors) = some a ↔ a ∈ actors ∧ a.identity.text = text := by
  have hmem {b : Actor} : b ∈ actors.filter (·.identity.text == text) ↔
      b ∈ actors ∧ b.identity.text = text := by
    rw [List.mem_filter, beq_iff_eq]
  rw [byIdentity, get?_foldl_put, Assoc.get?, Option.or_none]
  constructor
  · intro h
    exact hmem.mp (List.mem_of_getLast? h)
  · rintro ⟨ha, htext⟩
    cases hlast : (actors.filter (·.identity.text == text)).getLast? with
    | none =>
        rw [List.getLast?_eq_none_iff] at hlast
        exact absurd (hmem.mpr ⟨ha, htext⟩) (hlast ▸ List.not_mem_nil)
    | some b =>
        obtain ⟨hb, hbtext⟩ := hmem.mp (List.mem_of_getLast? hlast)
        rw [hdistinct b hb a ha (hbtext.trans htext.symm)]

theorem mem_of_mem_foldl_put {actors : List Actor} {kept : Assoc Actor} {entry : String × Actor}
    (h : entry ∈ actors.foldl (fun found a => found.put a.identity.text a) kept) :
    entry.2 ∈ actors ∨ entry ∈ kept := by
  induction actors generalizing kept with
  | nil => exact Or.inr h
  | cons a rest ih =>
      rcases ih h with hrest | hkept
      · exact Or.inl (List.mem_cons_of_mem _ hrest)
      · rcases Assoc.eq_or_mem_of_mem_put hkept with rfl | hkept
        · exact Or.inl List.mem_cons_self
        · exact Or.inr hkept

theorem mem_of_mem_byIdentity {actors : List Actor} {entry : String × Actor}
    (h : entry ∈ byIdentity actors) : entry.2 ∈ actors :=
  (mem_of_mem_foldl_put h).resolve_right List.not_mem_nil

/-- Users and teams as they are stored, by their identities: the names to show, and the Slack users
who are linked to users in a workspace. -/
structure Directory where
  name? : ActorKind → String → Option Value
  link? : String → Option String

namespace Directory

/-- Whether an actor is one of those asked for, under its name. -/
def Lists (d : Directory) (kind : ActorKind) (ids : List String) (a : Actor) : Prop :=
  ∃ id ∈ ids, ∃ name, d.name? kind id = some name ∧ a = ⟨kind, .text id, name⟩

/-- A database that gives exactly the actors that are asked for, in any order, and the links of
users. -/
structure Answers {σ : Type} (d : Directory) (o : Surroundings σ) (teamExternalId : String) :
    Prop where
  actors : ∀ s kind ids, ∃ rows, (o.answer s (.query (actorsQuery kind ids))).1 = .ok rows ∧
    ∀ a, a ∈ rows.map (Actor.ofRow kind) ↔ d.Lists kind ids a
  links : ∀ s id, ∃ rows,
    (o.answer s (.query (Integration.linkQuery (.text id) teamExternalId))).1 = .ok rows ∧
      rows.head?.map (·.get "external_id") = (d.link? id).map .text

/-- What an actor stands for. -/
def standsFor (d : Directory) (a : Actor) : ResolvedActor :=
  match a.kind with
  | .team => .team a.name
  | .user => .user a.name ((d.link? a.id.display).elim .null .text)

/-- How an actor is told of: a user who is linked to a Slack user with an identity is mentioned, all
others are shown as the entry of the picker shows them. -/
def shown (d : Directory) (a : Actor) : String :=
  match a.kind with
  | .team => a.option.text.display
  | .user => ((d.link? a.id.display).filter (· ≠ "")).elim a.option.text.display mention

end Directory

/-- Actors of some kinds are asked for before those of others. -/
theorem fetchActors_append (config : Config) (groups others : List (ActorKind × List String)) :
    fetchActors config (groups ++ others) = do
      let found ← fetchActors config groups
      let more ← fetchActors config others
      return found ++ more := by
  induction groups with
  | nil => simp [fetchActors]
  | cons group rest ih =>
      rw [List.cons_append, fetchActors, fetchActors, ih]
      simp only [LawfulMonad.bind_assoc, LawfulMonad.pure_bind, List.append_assoc]

/-- What was picked is resolved by finding the actors that it names, in one go or in two. -/
theorem resolvePicked_eq (config : Config) (teamExternalId : String)
    (actions : List MessageAction) :
    resolvePicked config teamExternalId actions =
      if (pickedValues actions).isEmpty then pure []
      else findActors config (pickedValues actions) >>= resolveActors config teamExternalId := by
  unfold resolvePicked askFirstActors askOtherActors findActors
  cases pickedValues actions with
  | nil => rfl
  | cons value values =>
      cases namedActors (value :: values) with
      | nil => simp [fetchActors]
      | cons group rest =>
          have hsplit := fetchActors_append config [group] rest
          rw [List.singleton_append] at hsplit
          simp [hsplit]

section Database

variable {σ : Type} {o : Surroundings σ} (config : Config)

theorem yields_openPool : Yields o (openPool config) fun _ => True := by
  refine (yields_update _).bind fun wasOpen _ => ?_
  cases wasOpen with
  | true => exact yields_done trivial
  | false => exact yields_perform fun _ => trivial

theorem yields_query {q : Query} {post : List Row → Prop}
    (h : ∀ s, ∃ rows, (o.answer s (.query q)).1 = .ok rows ∧ post rows) :
    Yields o (query config q) post := by
  refine (yields_openPool config).bind fun _ _ => ?_
  have hanswer : Yields o (perform (.query q)) fun answer =>
      ∃ rows, answer = Except.ok rows ∧ post rows := yields_perform h
  refine hanswer.bind ?_
  rintro _ ⟨rows, rfl, hpost⟩
  exact yields_done hpost

theorem yields_queryRow? {q : Query} {post : Option Row → Prop}
    (h : ∀ s, ∃ rows, (o.answer s (.query q)).1 = .ok rows ∧
      post (rows.head?.filter Value.isTruthy)) : Yields o (queryRow? config q) post :=
  (yields_query config h).bind fun _ hrows => yields_done hrows

theorem yields_fetchActors {d : Directory} {teamExternalId : String}
    (h : d.Answers o teamExternalId) (groups : List (ActorKind × List String)) :
    Yields o (fetchActors config groups) fun actors =>
      ∀ a, a ∈ actors ↔ ∃ group ∈ groups, d.Lists group.1 group.2 a := by
  induction groups with
  | nil => exact yields_done (by simp)
  | cons group rest ih =>
      obtain ⟨kind, ids⟩ := group
      refine (yields_query config fun s => h.actors s kind ids).bind fun rows hrows => ?_
      refine ih.bind fun actors hactors => yields_done fun a => ?_
      rw [List.mem_append, hrows, hactors]
      simp only [List.mem_cons, exists_eq_or_imp]

theorem isTruthy_of_get {v : Value} {name s : String} (h : v.get name = .text s) :
    v.isTruthy = true := by
  cases v with
  | record => rfl
  | error => rfl
  | _ => cases h

theorem yields_findLink? {d : Directory} {teamExternalId : String}
    (h : d.Answers o teamExternalId) (id : String) :
    Yields o (Integration.findLink? config (.text id) teamExternalId) fun link =>
      link.map (·.slackId) = (d.link? id).map .text := by
  have hrow : Yields o (queryRow? config (Integration.linkQuery (.text id) teamExternalId))
      fun row => row.map (·.get "external_id") = (d.link? id).map .text := by
    refine yields_queryRow? config fun s => ?_
    obtain ⟨rows, hanswer, hlink⟩ := h.links s id
    refine ⟨rows, hanswer, ?_⟩
    cases hhead : rows.head? with
    | none => rwa [hhead] at hlink
    | some row =>
        rw [hhead] at hlink
        obtain ⟨slackId, -, hget⟩ := Option.map_eq_some_iff.mp hlink.symm
        rw [Option.filter_some, if_pos (isTruthy_of_get hget.symm)]
        exact hlink
  refine hrow.bind fun row hrow => yields_done ?_
  rw [Option.map_map]
  exact hrow

theorem yields_resolveActor {d : Directory} {teamExternalId : String}
    (h : d.Answers o teamExternalId) {a : Actor} (ha : ∃ id, a.id = .text id) :
    Yields o (resolveActor config teamExternalId a) fun r => r = d.standsFor a := by
  obtain ⟨kind, id, name⟩ := a
  obtain ⟨id, rfl⟩ := ha
  cases kind with
  | team => exact yields_done rfl
  | user =>
      refine (yields_findLink? config h id).bind fun link hlink => yields_done ?_
      change ResolvedActor.user name _ = ResolvedActor.user name ((d.link? id).elim .null .text)
      rw [hlink]
      cases d.link? id <;> rfl

theorem yields_resolveActors {d : Directory} {teamExternalId : String}
    (h : d.Answers o teamExternalId) {actors : Assoc Actor}
    (hactors : ∀ entry ∈ actors, ∃ id, entry.2.id = .text id) :
    Yields o (resolveActors config teamExternalId actors) fun found =>
      found = actors.map fun entry => (entry.1, d.standsFor entry.2) := by
  induction actors with
  | nil => exact yields_done rfl
  | cons entry rest ih =>
      obtain ⟨hentry, hrest⟩ := List.forall_mem_cons.mp hactors
      refine (yields_resolveActor config h hentry).bind ?_
      rintro r rfl
      refine (ih hrest).bind ?_
      rintro found rfl
      exact yields_done rfl

/-- Found for picked values are the actors whose identities were picked. -/
theorem lists_iff_picked {d : Directory} {picked : List String} {a : Actor} :
    (∃ group ∈ namedActors picked, d.Lists group.1 group.2 a) ↔
      a.identity.text ∈ picked ∧
        ∃ id, a.id = .text id ∧ ActorId.OneLine id ∧ d.name? a.kind id = some a.name := by
  constructor
  · rintro ⟨⟨kind, ids⟩, hgroup, id, hid, name, hname, rfl⟩
    obtain ⟨rfl, -⟩ := mem_namedActors.mp hgroup
    obtain ⟨hpicked, hline⟩ := mem_idsOfKind.mp hid
    exact ⟨hpicked, id, rfl, hline, hname⟩
  · obtain ⟨kind, value, name⟩ := a
    rintro ⟨hpicked, id, rfl, hline, hname⟩
    have hid : id ∈ idsOfKind kind picked := mem_idsOfKind.mpr ⟨hpicked, hline⟩
    exact ⟨(kind, idsOfKind kind picked), mem_namedActors.mpr ⟨rfl, List.ne_nil_of_mem hid⟩,
      id, hid, name, hname, rfl⟩

theorem yields_findActors {d : Directory} {teamExternalId : String}
    (h : d.Answers o teamExternalId) (texts : List String) :
    Yields o (findActors config texts) fun found => ∃ actors : List Actor,
      (∀ a, a ∈ actors ↔ ∃ group ∈ namedActors texts, d.Lists group.1 group.2 a) ∧
        found = byIdentity actors :=
  (yields_openPool config).bind fun _ _ =>
    (yields_fetchActors config h (namedActors texts)).bind fun actors hactors =>
      yields_done ⟨actors, hactors, rfl⟩

/-- All picked actors are asked for, kind by kind. -/
theorem yields_resolvePicked {d : Directory} {teamExternalId : String}
    (h : d.Answers o teamExternalId) (actions : List MessageAction) :
    Yields o (resolvePicked config teamExternalId actions) fun found =>
      ∃ actors : List Actor,
        (∀ a, a ∈ actors ↔ ∃ group ∈ namedActors (pickedValues actions),
          d.Lists group.1 group.2 a) ∧
        found = (byIdentity actors).map fun entry => (entry.1, d.standsFor entry.2) := by
  rw [resolvePicked_eq]
  split
  · next hnone =>
      rw [List.isEmpty_iff.mp hnone]
      exact yields_done ⟨[], fun a => iff_of_false List.not_mem_nil (by rintro ⟨_, ⟨⟩, _⟩), rfl⟩
  · refine (yields_findActors config h (pickedValues actions)).bind ?_
    rintro _ ⟨actors, hactors, rfl⟩
    have htext : ∀ entry ∈ byIdentity actors, ∃ id, entry.2.id = .text id := by
      intro entry hentry
      obtain ⟨-, id, hid, -⟩ :=
        lists_iff_picked.mp ((hactors entry.2).mp (mem_of_mem_byIdentity hentry))
      exact ⟨id, hid⟩
    refine (yields_resolveActors config h htext).mono ?_
    rintro found rfl
    exact ⟨actors, hactors, rfl⟩

end Database

/-- Whether an actor is there under its name, with an identity that stands on one line. -/
def Directory.Knows (d : Directory) (a : Actor) : Prop :=
  ∃ id, a.id = .text id ∧ ActorId.OneLine id ∧ d.name? a.kind id = some a.name

theorem Directory.eq_of_knows {d : Directory} {a b : Actor} (ha : d.Knows a) (hb : d.Knows b)
    (h : a.identity.text = b.identity.text) : a = b := by
  obtain ⟨kind, _, name⟩ := a
  obtain ⟨kind', _, name'⟩ := b
  obtain ⟨id, rfl, -, hname⟩ := ha
  obtain ⟨id', rfl, -, hname'⟩ := hb
  obtain ⟨rfl, rfl⟩ : kind = kind' ∧ id = id' := ActorId.mk.inj (ActorId.eq_of_text_eq h)
  obtain rfl : name = name' := Option.some.inj (hname.symm.trans hname')
  rfl

/-- What an actor stands for is told of as it is shown. -/
theorem Directory.text_standsFor (d : Directory) (a : Actor) :
    (d.standsFor a).text = d.shown a := by
  obtain ⟨kind, id, name⟩ := a
  cases kind with
  | team => rfl
  | user =>
      simp only [standsFor, shown]
      cases d.link? id.display with
      | none => rfl
      | some slackId =>
          by_cases hempty : slackId = ""
          · rw [hempty]
            rfl
          · rw [Option.filter_some, if_pos (decide_eq_true hempty)]
            simp [ResolvedActor.text, Value.isTruthy, Value.display, hempty]

/-- The picked values resolve to the actors whose identities they are, and no other value does. -/
theorem yields_lookup {σ : Type} {o : Surroundings σ} (config : Config) {d : Directory}
    {teamExternalId : String} (h : d.Answers o teamExternalId) (actions : List MessageAction) :
    Yields o (resolvePicked config teamExternalId actions) fun found =>
      (∀ a, d.Knows a → a.option.value ∈ pickedValues actions →
        lookupIn found a.option.value = some (d.standsFor a)) ∧
      ∀ value, value ∉ pickedValues actions → lookupIn found value = none := by
  refine (yields_resolvePicked config h actions).mono ?_
  rintro found ⟨actors, hactors, rfl⟩
  have hmem (a : Actor) : a ∈ actors ↔ a.identity.text ∈ pickedValues actions ∧ d.Knows a :=
    (hactors a).trans lists_iff_picked
  have hget {text : String} {a : Actor} :
      Assoc.get? text (byIdentity actors) = some a ↔ a ∈ actors ∧ a.identity.text = text :=
    get?_byIdentity fun a ha b hb =>
      Directory.eq_of_knows ((hmem a).mp ha).2 ((hmem b).mp hb).2
  have hlookup (value : String) : lookupIn ((byIdentity actors).map fun entry =>
      (entry.1, d.standsFor entry.2)) value =
        (Assoc.get? value (byIdentity actors)).map d.standsFor := Assoc.get?_map _ _ _
  constructor
  · intro a ha hpicked
    rw [hlookup]
    exact congrArg (Option.map d.standsFor) (hget.mpr ⟨(hmem a).mpr ⟨hpicked, ha⟩, rfl⟩)
  · intro value hvalue
    rw [hlookup, Option.map_eq_none_iff, Option.eq_none_iff_forall_ne_some]
    intro a ha
    obtain ⟨hactor, rfl⟩ := hget.mp ha
    exact hvalue ((hmem a).mp hactor).1

/-- The entries of a picker, in the order in which they stand. -/
def AssigneeChoices.options (choices : AssigneeChoices) : List PickerOption :=
  choices.teams ++ (choices.members ++ choices.assignee.toList)

/-- The actors that rows with teams, with members and with an assignee hold. -/
def offered (teams members assignee : List Row) : List Actor :=
  teams.map (Actor.ofRow .team) ++ (members.map (Actor.ofRow .user) ++
    ((assignee.head?.filter Value.isTruthy).bind assigneeOf?).toList)

/-- A database that gives certain rows for the teams and members of a project and for the assignee
of an issue. -/
structure Offers {σ : Type} (o : Surroundings σ) (issue : Issue)
    (teams members assignee : List Row) : Prop where
  teams : ∀ s, (o.answer s (.query (teamsQuery issue.projectId))).1 = .ok teams
  members : ∀ s, (o.answer s (.query (membersQuery issue.projectId))).1 = .ok members
  assignee : ∀ s, (o.answer s (.query (assigneeQuery issue.id))).1 = .ok assignee

/-- The picker has an entry for each actor that is offered. -/
theorem yields_assigneeChoices {σ : Type} {o : Surroundings σ} (config : Config) {issue : Issue}
    {teams members assignee : List Row} (h : Offers o issue teams members assignee) :
    Yields o (assigneeChoices config issue) fun choices =>
      choices.options = (offered teams members assignee).map Actor.option := by
  have hteams : Yields o (projectTeams config issue.projectId) fun found =>
      found = teams.map (Actor.ofRow .team) :=
    (yields_query config fun s => ⟨teams, h.teams s, rfl⟩).bind fun _ hrows =>
      yields_done (congrArg _ hrows.symm)
  have hmembers : Yields o (projectMembers config issue.projectId) fun found =>
      found = members.map (Actor.ofRow .user) :=
    (yields_query config fun s => ⟨members, h.members s, rfl⟩).bind fun _ hrows =>
      yields_done (congrArg _ hrows.symm)
  have hassignee : Yields o (issueAssignee? config issue.id) fun found =>
      found = (assignee.head?.filter Value.isTruthy).bind assigneeOf? :=
    (yields_queryRow? config fun s => ⟨assignee, h.assignee s, rfl⟩).bind fun _ hrow =>
      yields_done (congrArg (·.bind assigneeOf?) hrow.symm)
  have hasked : Yields o (askChoices config issue) fun answers =>
      answers.choices = .ok (.ofActors (teams.map (Actor.ofRow .team))
        (members.map (Actor.ofRow .user))
        ((assignee.head?.filter Value.isTruthy).bind assigneeOf?)) := by
    refine hteams.attempt.bind ?_
    rintro _ ⟨_, rfl, rfl⟩
    refine hmembers.attempt.bind ?_
    rintro _ ⟨_, rfl, rfl⟩
    refine hassignee.attempt.bind ?_
    rintro _ ⟨_, rfl, rfl⟩
    exact yields_done rfl
  refine hasked.bind fun answers hanswers => ?_
  rw [hanswers]
  refine yields_done ?_
  simp only [AssigneeChoices.options, AssigneeChoices.ofActors, offered, List.map_append,
    Option.toList_map]

/-- From the entries of a picker to what is said of them.  Actors are offered whose identities stand
on one line, and a database that is asked for them later knows them under the same names.  Then the
value of each entry that was picked leads back to the actor of the entry, a value that was not
picked leads nowhere, and of an action whose first pick is an entry it is said that the issue was
assigned to the user who is linked to the entry's, or else to what the entry shows. -/
theorem picked_leads_back {σ τ : Type} {o : Surroundings σ} {o' : Surroundings τ} {d : Directory}
    (config : Config) {issue : Issue} {teamExternalId : String} {teams members assignee : List Row}
    (hoffers : Offers o issue teams members assignee)
    (hknown : ∀ a ∈ offered teams members assignee, d.Knows a)
    (hanswers : d.Answers o' teamExternalId) (actions : List MessageAction)
    (hpicked : ∀ value ∈ pickedValues actions,
      ∃ a ∈ offered teams members assignee, a.option.value = value)
    (identity : SlackIdentity) :
    Yields o (assigneeChoices config issue) (fun choices =>
      choices.options = (offered teams members assignee).map Actor.option) ∧
    Yields o' (resolvePicked config teamExternalId actions) fun found =>
      (∀ value ∈ pickedValues actions, ∃ a ∈ offered teams members assignee,
        a.option.value = value ∧ lookupIn found value = some (d.standsFor a) ∧
        ∀ b ∈ offered teams members assignee, b.option.value = value → b = a) ∧
      (∀ value, value ∉ pickedValues actions → lookupIn found value = none) ∧
      ∀ a ∈ offered teams members assignee, ∀ rest,
        .picked (a.option.value :: rest) ∈ actions →
        actionText? identity (.picked (a.option.value :: rest)) (lookupIn found) =
          some ("*Issue assigned to " ++ d.shown a ++ " by <@" ++ identity.slackId ++ ">*") := by
  refine ⟨yields_assigneeChoices config hoffers, ?_⟩
  refine (yields_lookup config hanswers actions).mono fun found hfound => ?_
  refine ⟨fun value hvalue => ?_, hfound.2, fun a ha rest haction => ?_⟩
  · obtain ⟨a, ha, rfl⟩ := hpicked value hvalue
    exact ⟨a, ha, rfl, hfound.1 a (hknown a ha) hvalue, fun b hb hsame =>
      Directory.eq_of_knows (hknown b hb) (hknown a ha) hsame⟩
  · have hvalue : a.option.value ∈ pickedValues actions :=
      List.mem_flatMap.mpr ⟨_, haction, List.mem_cons_self⟩
    have htext : "*Issue assigned to " ++ d.shown a ++ " by " ++ mention identity.slackId ++ "*" =
        "*Issue assigned to " ++ d.shown a ++ " by <@" ++ identity.slackId ++ ">*" := by
      simp only [mention, ← String.toList_inj, String.toList_append, List.append_assoc]
      rfl
    rw [actionText?, assignedText?, hfound.1 a (hknown a ha) hvalue, Option.map_some,
      Directory.text_standsFor, htext]

/-- Surroundings with a database that gives the same rows for a query whenever it is asked. -/
def answering (rows : Query → List Row) : Surroundings Unit where
  answer s
    | .query q => (.ok (rows q), s)
    | .clientQuery _ => (.ok [], s)
    | .connect => (.ok (), s)
    | .now => ((0 : Double), s)
    | .newId => ("", s)
    | .log .. => ((), s)
    | .notice .. => ((), s)
    | .openPool _ => ((), s)
    | .closePool => ((), s)
    | .release _ => ((), s)
    | .slack _ => (.threw .undefined, s)
    | .search _ => (.error (.foreign .undefined), s)
    | .spawn _ => ((), s)
    | .drain => ((), s)
    | .giveWay => ((), s)
  access s _ := (Memory.empty, s)

namespace Directory

/-- The row of an actor. -/
def row (kind : ActorKind) (id : String) (name : Value) : Row :=
  .ofFields [("id", .text id), (kind.nameColumn, name)]

/-- The rows of the actors of a kind with given identities. -/
def actorRows (d : Directory) (kind : ActorKind) (ids : List String) : List Row :=
  ids.filterMap fun id => (d.name? kind id).map (row kind id)

/-- The row of the link of a user. -/
def linkRows (d : Directory) (id : String) : List Row :=
  ((d.link? id).map fun slackId => .ofFields [("external_id", .text slackId)]).toList

/-- The kind of actors that a query asks for. -/
def kindAsked (q : Query) : ActorKind :=
  if q.text = (actorsQuery .user []).text then .user else .team

/-- The rows for a query, told by its text and its parameters. -/
def rows (d : Directory) (q : Query) : List Row :=
  match q.params with
  | some [.list _ ids] => d.actorRows (kindAsked q) (ids.filterMap Value.text?)
  | some [.text id, _] => d.linkRows id
  | _ => []

theorem ofRow_row (kind : ActorKind) (id : String) (name : Value) :
    Actor.ofRow kind (row kind id name) = ⟨kind, .text id, name⟩ := by
  cases kind <;> rfl

theorem kindAsked_actorsQuery (kind : ActorKind) (ids : List String) :
    kindAsked (actorsQuery kind ids) = kind := by
  cases kind with
  | user => exact if_pos rfl
  | team =>
      have hother : (actorsQuery .team []).text ≠ (actorsQuery .user []).text := by decide +kernel
      exact if_neg hother

theorem rows_actorsQuery (d : Directory) (kind : ActorKind) (ids : List String) :
    d.rows (actorsQuery kind ids) = d.actorRows kind ids := by
  have hrows : d.rows (actorsQuery kind ids) = d.actorRows (kindAsked (actorsQuery kind ids))
      ((ids.map Value.text).filterMap Value.text?) := by
    cases kind <;> rfl
  have htexts : (ids.map Value.text).filterMap Value.text? = ids := by
    rw [List.filterMap_map]
    exact List.filterMap_some
  rw [hrows, kindAsked_actorsQuery, htexts]

/-- There is a database that knows the actors of a directory. -/
theorem answering_answers (d : Directory) (teamExternalId : String) :
    d.Answers (answering d.rows) teamExternalId where
  actors := by
    intro s kind ids
    refine ⟨d.actorRows kind ids, congrArg Except.ok (d.rows_actorsQuery kind ids), fun a => ?_⟩
    simp only [actorRows, List.mem_map, List.mem_filterMap, Option.map_eq_some_iff]
    constructor
    · rintro ⟨_, ⟨id, hid, name, hname, rfl⟩, rfl⟩
      exact ⟨id, hid, name, hname, ofRow_row kind id name⟩
    · rintro ⟨id, hid, name, hname, rfl⟩
      exact ⟨_, ⟨id, hid, name, hname, rfl⟩, ofRow_row kind id name⟩
  links := by
    intro s id
    refine ⟨d.linkRows id, rfl, ?_⟩
    unfold linkRows
    cases d.link? id <;> rfl

end Directory

/-- A user and a team with one identity; the user is linked. -/
def namesakes : Directory where
  name? kind id := if id = "7" then some (.text (if kind = .user then "Ann" else "ops")) else none
  link? id := if id = "7" then some "U7" else none

/-- An issue of a project with that team, assigned to that user. -/
def sharedIssue : Issue :=
  ⟨⟨"Boom", .error, ⟨none, none, none, none, none⟩⟩, "g1", "APP-1", .unresolved, 0, "p1", "app",
    "acme", none⟩

/-- The rows with the assignee of the issue. -/
def assigneeRows : List Row :=
  [.ofFields [("user_id", .text "7"), ("display_name", .text "Ann"), ("team_id", .null),
    ("slug", .null)]]

/-- The rows for the choices of a picker for the issue. -/
def choiceRows (q : Query) : List Row :=
  if q.text = (teamsQuery "").text then [Directory.row .team "7" (.text "ops")]
  else if q.text = (assigneeQuery "").text then assigneeRows
  else []

theorem choiceRows_offers : Offers (answering choiceRows) sharedIssue
    [Directory.row .team "7" (.text "ops")] [] assigneeRows where
  teams := fun _ => congrArg Except.ok (if_pos rfl)
  members := by
    have hteams : (membersQuery "").text ≠ (teamsQuery "").text := by decide +kernel
    have hassignee : (membersQuery "").text ≠ (assigneeQuery "").text := by decide +kernel
    exact fun _ => congrArg Except.ok ((if_neg hteams).trans (if_neg hassignee))
  assignee := by
    have hteams : (assigneeQuery "").text ≠ (teamsQuery "").text := by decide +kernel
    exact fun _ => congrArg Except.ok ((if_neg hteams).trans (if_pos rfl))

/-- Both namesakes are offered, and each value leads back to its own. -/
theorem namesakes_told_apart :
    Yields (answering choiceRows) (assigneeChoices ⟨"", "", 0, 0, 0, 0, []⟩ sharedIssue)
      (fun choices => choices.options.map (·.value) = ["team:7", "user:7"]) ∧
    Yields (answering namesakes.rows) (resolvePicked ⟨"", "", 0, 0, 0, 0, []⟩ "T1"
        [.picked ["user:7", "team:7"], .picked ["team:7"]]) fun found =>
      actionText? ⟨"u1", "UI"⟩ (.picked ["user:7", "team:7"]) (lookupIn found) =
          some "*Issue assigned to <@U7> by <@UI>*" ∧
        actionText? ⟨"u1", "UI"⟩ (.picked ["team:7"]) (lookupIn found) =
          some "*Issue assigned to #ops by <@UI>*" ∧
        lookupIn found "user:8" = none := by
  have hoffered : offered [Directory.row .team "7" (.text "ops")] [] assigneeRows =
      [⟨.team, .text "7", .text "ops"⟩, ⟨.user, .text "7", .text "Ann"⟩] := rfl
  have hline : ActorId.OneLine "7" := by
    refine ⟨by decide, fun c hc => ?_⟩
    rw [List.mem_singleton.mp hc]
    decide
  have hknown : ∀ a ∈ offered [Directory.row .team "7" (.text "ops")] [] assigneeRows,
      namesakes.Knows a := by
    rw [hoffered]
    simp only [List.forall_mem_cons, List.not_mem_nil, false_implies, implies_true, and_true]
    exact ⟨⟨"7", rfl, hline, rfl⟩, ⟨"7", rfl, hline, rfl⟩⟩
  have hpicked : ∀ value ∈ pickedValues [.picked ["user:7", "team:7"], .picked ["team:7"]],
      ∃ a ∈ offered [Directory.row .team "7" (.text "ops")] [] assigneeRows,
        a.option.value = value := by
    rw [hoffered]
    decide +kernel
  obtain ⟨hchoices, hback⟩ := picked_leads_back ⟨"", "", 0, 0, 0, 0, []⟩ choiceRows_offers hknown
    (namesakes.answering_answers "T1") [.picked ["user:7", "team:7"], .picked ["team:7"]] hpicked
    ⟨"u1", "UI"⟩
  rw [hoffered] at hchoices hback
  constructor
  · refine hchoices.mono fun choices hoptions => ?_
    rw [hoptions]
    rfl
  · refine hback.mono fun found hfound => ?_
    obtain ⟨-, hnone, hsaid⟩ := hfound
    have huser := hsaid ⟨.user, .text "7", .text "Ann"⟩ (by simp) ["team:7"] List.mem_cons_self
    have hteam := hsaid ⟨.team, .text "7", .text "ops"⟩ List.mem_cons_self []
      (List.mem_cons_of_mem _ List.mem_cons_self)
    exact ⟨huser, hteam, hnone "user:8" (by decide)⟩

end AlertRelay.Attachment
