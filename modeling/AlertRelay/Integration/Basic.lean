import AlertRelay.Database.Query
import AlertRelay.Schema

/-!
Slack workspaces that are connected to organizations.
-/

namespace AlertRelay.Integration

open Schema

/-- What a workspace handed over when it was connected.  Only classic bots have a token for a
user.  `fields` holds everything, known or not. -/
structure Metadata where
  accessToken : String
  installationType : Option String
  userAccessToken : Option String
  domainName : Option String
  fields : List (String × Value)

/-- Reads what a workspace handed over. -/
def Metadata.ofValue (v : Value) : Except (List Issue) Metadata :=
  match record ["access_token", "installation_type", "user_access_token", "domain_name"] [] v with
  | .error es => .error es
  | .ok fields =>
    let required := nonEmptyText emptyText
    let access := required ["access_token"] (v.get "access_token")
    let installation := optional required ["installation_type"] (v.get "installation_type")
    let user := optional required ["user_access_token"] (v.get "user_access_token")
    let domain := optional text ["domain_name"] (v.get "domain_name")
    match access, installation, user, domain with
    | .ok access, .ok installation, .ok user, .ok domain =>
      .ok ⟨access, installation, user, domain, fields⟩
    | _, _, _, _ =>
      .error (issues access ++ issues installation ++ issues user ++ issues domain)

/-- How a workspace was connected: as it says, else as a classic bot if it has a token for a
user. -/
def Metadata.installation (m : Metadata) : String :=
  m.installationType.getD (if m.userAccessToken.isSome then "classic_bot" else "workspace_app")

/-- Whether a connected workspace is in use. -/
inductive Status where
  | visible
  | disabled
  | pendingDeletion
deriving DecidableEq, Repr

namespace Status

def name : Status → String
  | .visible => "visible"
  | .disabled => "disabled"
  | .pendingDeletion => "pending_deletion"

/-- The status of a name. -/
def ofName? (s : String) : Option Status :=
  [Status.visible, .disabled, .pendingDeletion].find? (·.name == s)

end Status

/-- A connected workspace; `externalId` is the identity that Slack knows it by.  Identities and
names are as they are stored. -/
structure Workspace where
  id : Value
  externalId : Value
  name : Value
  status : Status
  metadata : Metadata

/-- Who vouches for the identities of a workspace's users. -/
structure IdentityProvider where
  id : Value
  externalId : Value

/-- A user who is linked to a user of Slack. -/
structure Link where
  user : Value
  slackId : Value

/-- An organization as it is stored, a workspace connected to it, and who vouches for the users
there. -/
structure IdentityContext where
  organization : Value
  workspace : Workspace
  provider : IdentityProvider

def Workspace.toValue (w : Workspace) : Value :=
  .ofFields [("id", w.id), ("provider", .text "slack"), ("externalId", w.externalId),
    ("name", w.name), ("status", .text w.status.name),
    ("metadata", .ofFields w.metadata.fields)]

def IdentityProvider.toValue (p : IdentityProvider) : Value :=
  .ofFields [("id", p.id), ("type", .text "slack"), ("externalId", p.externalId)]

def Link.toValue (l : Link) : Value :=
  .ofFields [("userId", l.user), ("externalId", l.slackId)]

def IdentityContext.toValue (c : IdentityContext) : Value :=
  .ofFields [("organization", c.organization), ("integration", c.workspace.toValue),
    ("identityProvider", c.provider.toValue)]

/-- What is told about an identity context: of the workspace everything but its tokens. -/
def IdentityContext.summary (c : IdentityContext) : Value :=
  .ofFields
    [("organization", c.organization),
      ("integration",
        .ofFields [("id", c.workspace.id), ("name", c.workspace.name),
          ("externalId", c.workspace.externalId),
          ("installationType", .text c.workspace.metadata.installation)]),
      ("identityProvider", c.provider.toValue)]

end AlertRelay.Integration
