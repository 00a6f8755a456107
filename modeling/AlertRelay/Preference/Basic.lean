import AlertRelay.Number.Shortest

/-!
Notification preferences: what they are about, whose they are and where they apply.

Providers, notification types and values are known by their codes.  A preference belongs to
a user or a team, its target, and applies in a scope: a project, else an organization, else
everywhere for the user.
-/

namespace AlertRelay.Preference

/-- A way to reach people, by its code. -/
structure Provider where
  code : Double
deriving DecidableEq, Repr

namespace Provider

def email : Provider := ⟨100⟩
def slack : Provider := ⟨110⟩

/-- The providers there are. -/
def all : List Provider := [email, slack]

end Provider

/-- What a notification is about, by its code. -/
structure Topic where
  code : Double
deriving DecidableEq, Repr

namespace Topic

/-- The fallback for every topic. -/
def general : Topic := ⟨0⟩
def deploy : Topic := ⟨10⟩
def issueAlerts : Topic := ⟨20⟩
def workflow : Topic := ⟨30⟩

/-- The topics there are. -/
def all : List Topic := [general, deploy, issueAlerts, workflow]

end Topic

/-- When to notify, by its code. -/
structure Choice where
  code : Double
deriving DecidableEq, Repr

namespace Choice

/-- No choice of its own: the one of the enclosing scope counts. -/
def inherit : Choice := ⟨0⟩
def never : Choice := ⟨10⟩
def always : Choice := ⟨20⟩
def subscribeOnly : Choice := ⟨30⟩
def committedOnly : Choice := ⟨40⟩

/-- The choices there are. -/
def all : List Choice := [inherit, never, always, subscribeOnly, committedOnly]

end Choice

/-- Whom a preference is stated for and where: identities, each of which may be missing. -/
structure Coordinates where
  user : Option String
  team : Option String
  project : Option String
  organization : Option String
deriving DecidableEq, Repr

/-- Users and teams. -/
inductive TargetKind where
  | user
  | team
deriving DecidableEq, Repr

def TargetKind.name : TargetKind → String
  | .user => "user"
  | .team => "team"

/-- Whose preference it is. -/
structure Target where
  kind : TargetKind
  id : String
deriving DecidableEq, Repr

/-- The kinds of places where a preference applies. -/
inductive ScopeKind where
  | user
  | organization
  | project
deriving DecidableEq, Repr

def ScopeKind.code : ScopeKind → Double
  | .user => 0
  | .organization => 10
  | .project => 20

/-- Where a preference applies. -/
structure Scope where
  kind : ScopeKind
  id : String
deriving DecidableEq, Repr

/-- What a stored preference is found by. -/
structure Key where
  provider : Provider
  topic : Topic
  target : Target
  scope : Scope
deriving DecidableEq, Repr

/-- Why coordinates do not name a preference. -/
inductive CoordinatesFault where
  | noScope
  | userAndTeam
  | noTarget
deriving DecidableEq, Repr

/-- What is told about coordinates that do not name a preference. -/
def CoordinatesFault.message : CoordinatesFault → String
  | .noScope => "scope must be either user, organization, or project"
  | .userAndTeam => "target must be either a user or a team, not both"
  | .noTarget => "target must be either a user or a team"

namespace Coordinates

/-- The scope: the project, else the organization, else the user. -/
def scope (c : Coordinates) : Except CoordinatesFault Scope :=
  match c.project, c.organization, c.user with
  | some p, _, _ => .ok ⟨.project, p⟩
  | none, some o, _ => .ok ⟨.organization, o⟩
  | none, none, some u => .ok ⟨.user, u⟩
  | none, none, none => .error .noScope

/-- The target: a user or a team, and not both. -/
def target (c : Coordinates) : Except CoordinatesFault Target :=
  match c.user, c.team with
  | some _, some _ => .error .userAndTeam
  | some u, none => .ok ⟨.user, u⟩
  | none, some t => .ok ⟨.team, t⟩
  | none, none => .error .noTarget

/-- The key of a preference with these coordinates.  A fault of the target is found before
one of the scope. -/
def key (c : Coordinates) (provider : Provider) (topic : Topic) : Except CoordinatesFault Key :=
  match c.target with
  | .error e => .error e
  | .ok target =>
    match c.scope with
    | .error e => .error e
    | .ok scope => .ok ⟨provider, topic, target, scope⟩

end Coordinates

end AlertRelay.Preference
