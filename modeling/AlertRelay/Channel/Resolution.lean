import AlertRelay.Channel.Listing
import AlertRelay.Config

/-!
Names of channels and users, resolved with a limited time.

Whoever waits for an answer gets the short budget; work in the background gets the long one.
-/

namespace AlertRelay.Channel

open Program

/-- Who waits for an answer. -/
inductive Patience where
  | interactive
  | background
deriving DecidableEq, Repr

/-- The time that a search may take. -/
def Patience.budget (config : Config) : Patience → Double
  | .interactive => config.lookupBudget
  | .background => config.asyncLookupBudget

/-- Resolves a name with somebody's token. -/
def resolveName (config : Config) (name token : String) (p : Patience) : Program Outcome := do
  let start ← now
  search ⟨bareName name, start.add (p.budget config), token⟩

/-- A failure as it is told to members of a workspace: where several people go by one name,
with the address at which they find their own. -/
def hinted (workspace : Integration.Workspace) (f : Failure) : Failure :=
  match f.duplicate? with
  | some (name, domain) =>
    if (domain.filter (· != "")).isNone then
      .duplicateName name workspace.metadata.domainName
    else f
  | none => f

/-- The stages from a search to the workspace that it was made for. -/
def searchedStages : Nat := 2

/-- What a name comes to in a workspace: the kind of list that was searched last, the identity
that the name led to, and whether the time ran out. -/
structure Finding where
  kind : Kind
  id? : Option String
  timedOut : Bool
deriving DecidableEq, Repr

/-- What an outcome comes to. -/
def Outcome.finding : Outcome → Finding
  | .found kind id => ⟨kind, some id, false⟩
  | .timedOut kind => ⟨kind, none, true⟩
  | .notFound kind => ⟨kind, none, false⟩

/-- The identity that a name led to; an empty one counts for none. -/
def Finding.found? (f : Finding) : Option String :=
  f.id?.filter (· != "")

/-- A finding as a value. -/
def Finding.answer (f : Finding) : Value :=
  .ofFields [("prefix", .text f.kind.mark), ("channelId", .ofText? f.id?),
    ("timedOut", .bool f.timedOut)]

/-- Resolves a name in a connected workspace. -/
def resolveIn (config : Config) (organizationId : String) (workspace : Integration.Workspace)
    (name : String) (p : Patience) : Program Finding := do
  let searched := resolveName config name workspace.metadata.accessToken p
  match ← attempt (handedOn searchedStages searched) with
  | .error f => .fail (hinted workspace f)
  | .ok o =>
    log .debug "slack.channel_lookup.completed"
      [("organizationId", .text organizationId), ("integrationId", workspace.id),
        ("outcome", .text o.name), ("async", .bool (p == .background))]
    return o.finding

end AlertRelay.Channel
