import AlertRelay.Integration.Stored

/-!
Users and teams of the database, to whom issues are assigned.
-/

namespace AlertRelay.Attachment

open Program Database

/-- The name to show for a user: the name, else the address. -/
def shownName : String := "COALESCE(NULLIF(u.name, ''), u.email)"

/-- The query for the teams of a project. -/
def teamsQuery (projectId : String) : Query :=
  ⟨"SELECT t.id, t.slug FROM team t JOIN project_team pt ON pt.team_id = t.id " ++
      "WHERE pt.project_id = $1 ORDER BY t.slug",
    some [.text projectId]⟩

/-- The query for the active members of the teams of a project. -/
def membersQuery (projectId : String) : Query :=
  ⟨"SELECT DISTINCT u.id, " ++ shownName ++ " AS display_name FROM auth_user u " ++
      "JOIN team_member tm ON tm.user_id = u.id " ++
      "JOIN project_team pt ON pt.team_id = tm.team_id " ++
      "WHERE pt.project_id = $1 AND u.is_active ORDER BY display_name",
    some [.text projectId]⟩

/-- The query for the assignee of an issue. -/
def assigneeQuery (issueId : String) : Query :=
  ⟨"SELECT ga.user_id, " ++ shownName ++ " AS display_name, ga.team_id, t.slug " ++
      "FROM group_assignee ga LEFT JOIN auth_user u ON u.id = ga.user_id " ++
      "LEFT JOIN team t ON t.id = ga.team_id WHERE ga.group_id = $1 LIMIT 1",
    some [.text issueId]⟩

/-- The query for the actors of a kind with given identities. -/
def actorsQuery (kind : ActorKind) (ids : List String) : Query :=
  let params := some [Value.ofList (ids.map .text)]
  match kind with
  | .user =>
    ⟨"SELECT u.id, " ++ shownName ++
        " AS display_name FROM auth_user u WHERE u.id = ANY($1::text[])",
      params⟩
  | .team => ⟨"SELECT t.id, t.slug FROM team t WHERE t.id = ANY($1::text[])", params⟩

/-- The column that holds the name to show of an actor. -/
def ActorKind.nameColumn : ActorKind → String
  | .user => "display_name"
  | .team => "slug"

/-- The actor that a row holds. -/
def Actor.ofRow (kind : ActorKind) (row : Row) : Actor :=
  ⟨kind, row.get "id", row.get kind.nameColumn⟩

/-- The actor that two columns of a row hold, if neither is null. -/
def Actor.ofColumns? (kind : ActorKind) (id name : Value) : Option Actor :=
  if id.isNull || name.isNull then none else some ⟨kind, id, name⟩

/-- The assignee that a row holds: a user if there is one with a name, else a team. -/
def assigneeOf? (row : Row) : Option Actor :=
  (Actor.ofColumns? .user (row.get "user_id") (row.get "display_name")).or
    (Actor.ofColumns? .team (row.get "team_id") (row.get "slug"))

/-- The teams of a project. -/
def projectTeams (config : Config) (projectId : String) : Program (List Actor) :=
  return (← query config (teamsQuery projectId)).map (Actor.ofRow .team)

/-- The active members of the teams of a project. -/
def projectMembers (config : Config) (projectId : String) : Program (List Actor) :=
  return (← query config (membersQuery projectId)).map (Actor.ofRow .user)

/-- The assignee of an issue. -/
def issueAssignee? (config : Config) (issueId : String) : Program (Option Actor) :=
  return (← queryRow? config (assigneeQuery issueId)).bind assigneeOf?

/-- The identities among texts that are of a kind. -/
def idsOfKind (kind : ActorKind) (texts : List String) : List String :=
  (texts.filterMap ActorId.read?).filterMap fun a => if a.kind = kind then some a.id else none

/-- The kinds of actors that texts name, each with the identities. -/
def namedActors (texts : List String) : List (ActorKind × List String) :=
  [ActorKind.user, .team].filterMap fun kind =>
    match idsOfKind kind texts with
    | [] => none
    | ids => some (kind, ids)

/-- The actors of one kind after the other. -/
def fetchActors (config : Config) : List (ActorKind × List String) → Program (List Actor)
  | [] => return []
  | (kind, ids) :: rest => do
    let found := (← query config (actorsQuery kind ids)).map (Actor.ofRow kind)
    return found ++ (← fetchActors config rest)

/-- Actors by the texts of their identities. -/
def byIdentity (actors : List Actor) : Assoc Actor :=
  actors.foldl (fun found a => found.put a.identity.text a) []

/-- The actors that texts name, by their texts.  Texts that name nobody are left out. -/
def findActors (config : Config) (texts : List String) : Program (Assoc Actor) := do
  openPool config
  return byIdentity (← fetchActors config (namedActors texts))

end AlertRelay.Attachment
