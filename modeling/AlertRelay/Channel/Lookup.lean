import AlertRelay.Channel.Resolution
import AlertRelay.Integration.Stored

/-!
Look-ups of channels for alert rules.

A look-up is first tried while the caller waits.  If that takes too long it goes on in the
background, and the caller is given a job to ask for.
-/

namespace AlertRelay.Channel

open Program

/-- What a look-up is answered. -/
inductive LookupAnswer where
  | resolved (kind : Kind) (id : String)
  | notFound (kind : Kind)
  | pending (jobId : String)
deriving DecidableEq, Repr

def LookupAnswer.toValue : LookupAnswer → Value
  | .resolved kind id =>
    .ofFields [("status", .text "resolved"), ("prefix", .text kind.mark),
      ("channelId", .text id)]
  | .notFound kind => .ofFields [("status", .text "not_found"), ("prefix", .text kind.mark)]
  | .pending jobId => .ofFields [("status", .text "pending"), ("jobId", .text jobId)]

/-- Makes a new job for a name. -/
def createJob (config : Config) (name : String) : Program Job := do
  let id ← perform .newId
  let time ← now
  update fun m => ((), { m with jobs := Jobs.create m.jobs time config.jobTtl id name })
  return ⟨id, name, .pending⟩

/-- The job of an identity, if it is remembered. -/
def findJob? (id : String) : Program (Option Job) := do
  let time ← now
  update fun m =>
    let (job, jobs) := m.jobs.read time id
    (job, { m with jobs })

/-- Notes how the look-up of a job ended. -/
def completeJob (config : Config) (id : String) (outcome : JobOutcome) :
    Program (Option Job) := do
  let time ← now
  update fun m =>
    let (job, jobs) := Jobs.complete m.jobs time config.jobTtl id outcome
    (job, { m with jobs })

/-- The job of an identity. -/
def getJob (id : String) : Program Job := do
  Integration.orMissing .lookupJob (← findJob? id)

/-- Notes that the look-up of a job is in flight. -/
def track (jobId : String) : Program Unit :=
  update fun m => ((), { m with inFlight := m.inFlight ++ [jobId] })

/-- Notes that the look-up of a job is not in flight any more. -/
def untrack (jobId : String) : Program Unit :=
  update fun m => ((), { m with inFlight := m.inFlight.erase jobId })

/-- Waits until no look-up is in flight. -/
def drain : Program Unit :=
  perform .drain

/-- Finds the workspace of a look-up, and looks the name up while the caller waits. -/
def tryLookup (config : Config) (organizationId integrationId name : String) :
    Program (Integration.Workspace × Finding) := do
  let workspace ← Integration.orMissing .integration
    (← Integration.findActive? config organizationId integrationId)
  let finding ← handedOn 1 (resolveIn config organizationId workspace name .interactive)
  return (workspace, finding)

/-- Leaves a look-up that took too long for the background. -/
def deferLookup (config : Config) (organizationId integrationId : String)
    (workspace : Integration.Workspace) (name : String) : Program LookupAnswer := do
  let job ← createJob config name
  log .info "slack.channel_lookup.deferred"
    [("organizationId", .text organizationId), ("integrationId", .text integrationId),
      ("jobId", .text job.id)]
  perform (.spawn (.lookup job.id organizationId workspace name))
  track job.id
  return .pending job.id

/-- What a finding is answered that was made in time. -/
def LookupAnswer.ofFinding (f : Finding) : LookupAnswer :=
  match f.found? with
  | some id => .resolved f.kind id
  | none => .notFound f.kind

/-- Looks up a name for an alert rule. -/
def lookup (config : Config) (organizationId integrationId name : String) :
    Program LookupAnswer := do
  let (workspace, finding) ← tryLookup config organizationId integrationId name
  if !finding.timedOut then return .ofFinding finding
  else deferLookup config organizationId integrationId workspace name

/-- How a job ends with a finding. -/
def JobOutcome.ofFinding (f : Finding) : JobOutcome :=
  match f.found? with
  | some id => .success f.kind id
  | none => if f.timedOut then .failed "timed_out" none else .notFound f.kind

/-- How a job ends whose search failed because several people go by the name. -/
def JobOutcome.ofDuplicate? (f : Failure) : Option JobOutcome :=
  f.duplicate?.map fun _ =>
    let error := f.toValue
    .failed ((error.get "code").text?.getD "") (error.get "message").text?

/-- The end of a job whose search failed.  A failure that the caller cannot mend is only
told to the log. -/
def jobFailure (jobId : String) (workspace : Integration.Workspace) (f : Failure) :
    Program JobOutcome :=
  match JobOutcome.ofDuplicate? f with
  | some outcome => return outcome
  | none => do
    log .error "slack.channel_lookup.async_failed"
      [("jobId", .text jobId), ("integrationId", workspace.id), ("error", f.toValue)]
    return .failed "internal_error" none

/-- Looks a name up in the background, however that ends. -/
def lookupOutcome (config : Config) (jobId organizationId : String)
    (workspace : Integration.Workspace) (name : String) : Program JobOutcome := do
  match ← attempt (handedOn 1 (resolveIn config organizationId workspace name .background)) with
  | .ok finding => return .ofFinding finding
  | .error f => jobFailure jobId workspace f

/-- The part of a look-up that goes on in the background. -/
def finishLookup (config : Config) (jobId organizationId : String)
    (workspace : Integration.Workspace) (name : String) : Program Unit := do
  let outcome ← lookupOutcome config jobId organizationId workspace name
  discard <| completeJob config jobId outcome

end AlertRelay.Channel
