import AlertRelay.Database.Access

/-!
Connected workspaces as they are stored in the database.

A stored row that does not hold a valid workspace is logged and counts as missing.
-/

namespace AlertRelay.Integration

open Program Database

/-- The beginning of every query for a workspace of an organization. -/
def workspaceText : String :=
  "SELECT i.id, i.external_id, i.name, i.status, i.metadata FROM integration i " ++
    "JOIN organization_integration oi ON oi.integration_id = i.id " ++
    "WHERE i.id = $1 AND oi.organization_id = $2 AND i.provider = 'slack'"

/-- The query for a workspace that is in use. -/
def activeQuery (organizationId integrationId : String) : Query :=
  ⟨workspaceText ++ " AND i.status = 'visible' LIMIT 1",
    some [.text integrationId, .text organizationId]⟩

/-- The query for a workspace, in use or not. -/
def anyQuery (organizationId : Value) (integrationId : String) : Query :=
  ⟨workspaceText ++ " LIMIT 1", some [.text integrationId, organizationId]⟩

/-- The query for an organization that a user belongs to. -/
def organizationQuery (userId organizationId : String) : Query :=
  ⟨"SELECT o.id, o.slug FROM organization o " ++
      "JOIN organization_member m ON m.organization_id = o.id " ++
      "WHERE o.id = $1 AND m.user_id = $2 LIMIT 1",
    some [.text organizationId, .text userId]⟩

/-- The query for who vouches for the users of a workspace. -/
def providerQuery (externalId : Value) : Query :=
  ⟨"SELECT id, external_id FROM identity_provider WHERE external_id = $1 " ++
      "AND type = 'slack' LIMIT 1",
    some [externalId]⟩

/-- The query for the Slack user who is linked to a user in a workspace. -/
def linkQuery (userId : Value) (teamExternalId : String) : Query :=
  ⟨"SELECT i.user_id, i.external_id FROM identity i " ++
      "JOIN identity_provider idp ON idp.id = i.identity_provider_id " ++
      "WHERE i.user_id = $1 AND idp.type = 'slack' AND idp.external_id = $2 LIMIT 1",
    some [userId, .text teamExternalId]⟩

/-- The query whether a project has releases. -/
def releasesQuery (projectId : String) : Query :=
  ⟨"SELECT EXISTS (SELECT 1 FROM release_project WHERE project_id = $1) AS \"exists\"",
    some [.text projectId]⟩

/-- The workspace that a row holds, if it holds a valid one. -/
def Workspace.ofRow? (row : Row) : Option Workspace :=
  match Metadata.ofValue (row.get "metadata"), (row.get "status").text?.bind Status.ofName? with
  | .ok metadata, some status =>
    some ⟨row.get "id", row.get "external_id", row.get "name", status, metadata⟩
  | _, _ => none

/-- The workspace of a row, if there is a row and it is valid. -/
def workspaceOf (row : Option Row) : Program (Option Workspace) :=
  match row with
  | none => return none
  | some row =>
    match Workspace.ofRow? row with
    | some w => return some w
    | none => do
      log .warn "slack.integration.invalid_row"
        [("integrationId", row.get "id"), ("status", row.get "status")]
      return none

/-- Finds a workspace of an organization that is in use. -/
def findActive? (config : Config) (organizationId integrationId : String) :
    Program (Option Workspace) := do
  workspaceOf (← queryRow? config (activeQuery organizationId integrationId))

/-- What was looked for, or the failure that it is missing. -/
def orMissing {α : Type} (what : Missing) (found : Option α) : Program α :=
  match found with
  | some a => return a
  | none => .fail (.missing what)

/-- Finds an organization that a user belongs to, a workspace of it, and who vouches for the
users there. -/
def findIdentityContext (config : Config) (userId organizationId integrationId : String) :
    Program IdentityContext := do
  let organization ← orMissing .organization
    (← queryRow? config (organizationQuery userId organizationId))
  let workspace ← orMissing .integration
    (← workspaceOf
      (← queryRow? config (anyQuery (organization.get "id") integrationId)))
  let provider ← orMissing .identityProvider
    (← queryRow? config (providerQuery workspace.externalId))
  return ⟨organization, workspace, ⟨provider.get "id", provider.get "external_id"⟩⟩

/-- Finds the Slack user who is linked to a user in a workspace. -/
def findLink? (config : Config) (userId : Value) (teamExternalId : String) :
    Program (Option Link) := do
  let row ← queryRow? config (linkQuery userId teamExternalId)
  return row.map fun row => ⟨row.get "user_id", row.get "external_id"⟩

/-- Whether a project has releases. -/
def hasReleases (config : Config) (projectId : String) : Program Bool := do
  match ← queryRow? config (releasesQuery projectId) with
  | some row =>
    match row.get "exists" with
    | .bool b => return b
    | _ => return false
  | none => return false

end AlertRelay.Integration
