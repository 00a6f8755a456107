import AlertRelay.Attachment.Assignees

/-!
Attachments about issues, assembled from what the database knows.

Whether a project has releases is remembered: for an hour if it has some, and for a minute if
it has none.
-/

namespace AlertRelay.Attachment

open Program

/-- The name under which it is remembered whether a project has releases. -/
def releasesKey (projectId : String) : String :=
  "has_releases:2:" ++ projectId

/-- How long it is remembered that a project has releases, or none. -/
def releasesTtl (hasReleases : Bool) : Double :=
  if hasReleases then 3600000 else 60000

/-- Whether a project has releases, from memory if possible. -/
def hasReleases (config : Config) (projectId : String) : Program Bool := do
  let time ← now
  let known ← update fun m =>
    let (known, releases) := m.releases.read time (releasesKey projectId)
    (known, { m with releases })
  match known with
  | some b => return b
  | none =>
    let b ← Integration.hasReleases config projectId
    let time ← now
    update fun m =>
      ((), { m with releases := m.releases.set time (releasesKey projectId) b (releasesTtl b) })
    return b

/-- Picker entries for teams, members and an assignee. -/
def AssigneeChoices.ofActors (teams members : List Actor) (assignee : Option Actor) :
    AssigneeChoices :=
  ⟨teams.map Actor.option, members.map Actor.option, assignee.map Actor.option⟩

/-- The answers to the queries for the choices of a picker. -/
structure ChoiceAnswers where
  teams : Except Failure (List Actor)
  members : Except Failure (List Actor)
  assignee : Except Failure (Option Actor)

/-- Asks all queries for the choices of a picker, also if one of them fails. -/
def askChoices (config : Config) (issue : Issue) : Program ChoiceAnswers := do
  let teams ← attempt (projectTeams config issue.projectId)
  let members ← attempt (projectMembers config issue.projectId)
  let assignee ← attempt (issueAssignee? config issue.id)
  return ⟨teams, members, assignee⟩

/-- The choices, or the first failure. -/
def ChoiceAnswers.choices (a : ChoiceAnswers) : Except Failure AssigneeChoices :=
  match a.teams, a.members, a.assignee with
  | .ok teams, .ok members, .ok assignee => .ok (.ofActors teams members assignee)
  | .error f, _, _ => .error f
  | _, .error f, _ => .error f
  | _, _, .error f => .error f

/-- The choices of the assignee picker for an issue. -/
def assigneeChoices (config : Config) (issue : Issue) : Program AssigneeChoices := do
  ofExcept (← askChoices config issue).choices

/-- What was picked in actions. -/
def pickedValues (actions : List MessageAction) : List String :=
  actions.flatMap fun
    | .picked values => values
    | .pressed _ => []

/-- What the identity of an actor stands for in a workspace: users are mentioned if they are
linked there. -/
def resolveActor (config : Config) (teamExternalId : String) (a : Actor) :
    Program ResolvedActor := do
  match a.kind with
  | .team => return .team a.name
  | .user =>
    let link ← Integration.findLink? config a.id teamExternalId
    return .user a.name ((link.map (·.slackId)).filter (!·.isAbsent) |>.getD .null)

/-- What the identities of actors stand for in a workspace. -/
def resolveActors (config : Config) (teamExternalId : String) :
    Assoc Actor → Program (Assoc ResolvedActor)
  | [] => return []
  | (text, a) :: rest => do
    let r ← resolveActor config teamExternalId a
    return (text, r) :: (← resolveActors config teamExternalId rest)

/-- What the first query for picked actors gave, and what remains to be asked. -/
structure FirstActors where
  found : List Actor
  rest : List (ActorKind × List String)

/-- Asks the first query for picked actors. -/
def askFirstActors (config : Config) (picked : List String) : Program FirstActors := do
  unless picked.isEmpty do Database.openPool config
  match namedActors picked with
  | [] => return ⟨[], []⟩
  | first :: rest => return ⟨← fetchActors config [first], rest⟩

/-- Asks what remains, and resolves all picked actors. -/
def askOtherActors (config : Config) (teamExternalId : String) (first : FirstActors) :
    Program (Assoc ResolvedActor) := do
  let others ← fetchActors config first.rest
  resolveActors config teamExternalId (byIdentity (first.found ++ others))

/-- What the identities that were picked in actions stand for. -/
def resolvePicked (config : Config) (teamExternalId : String) (actions : List MessageAction) :
    Program (Assoc ResolvedActor) := do
  askOtherActors config teamExternalId (← askFirstActors config (pickedValues actions))

/-- What is known of actors, as a look-up. -/
def lookupIn (actors : Assoc ResolvedActor) : ActorLookup := fun text => actors.get? text

/-- Assembles the attachment about an issue.  All queries that do not depend on each other are
asked, and of their failures one counts: that of the releases, of the first query for actors,
of the choices, of the other queries for actors, in this order. -/
def assemble (config : Config) (issue : Issue) (teamExternalId : String)
    (options : IssueOptions) : Program Payload := do
  let releases ← attempt (hasReleases config issue.projectId)
  let choices ← askChoices config issue
  let first ← attempt (askFirstActors config (pickedValues options.actions))
  let actors ←
    match first with
    | .ok first => attempt (askOtherActors config teamExternalId first)
    | .error f => pure (.error f)
  let releases ← ofExcept releases
  let _ ← ofExcept first
  let choices ← ofExcept choices.choices
  let actors ← ofExcept actors
  return issueAttachment ⟨config.appBaseUrl⟩ issue options choices releases (lookupIn actors)

end AlertRelay.Attachment
