import AlertRelay.Channel.Kind
import AlertRelay.ExpiringMap
import AlertRelay.Value.Basic

/-!
Look-ups that go on in the background, and the jobs that tell how they stand.

A job is pending until its look-up ends; then it keeps the outcome.  Jobs are forgotten some
time after their last change.
-/

namespace AlertRelay.Channel

/-- How a look-up in the background ends. -/
inductive JobOutcome where
  | success (kind : Kind) (id : String)
  | notFound (kind : Kind)
  | failed (error : String) (message : Option String)
deriving DecidableEq, Repr

/-- How a look-up in the background stands. -/
inductive JobStatus where
  | pending
  | settled (outcome : JobOutcome)
deriving DecidableEq, Repr

/-- A job: its identity, the name as it was typed, and how its look-up stands. -/
structure Job where
  id : String
  name : String
  status : JobStatus
deriving DecidableEq, Repr

/-- The jobs that are remembered. -/
abbrev Jobs := ExpiringMap Job

namespace Jobs

/-- Remembers a new job, which is pending. -/
def create (jobs : Jobs) (now ttl : Double) (id name : String) : Jobs :=
  jobs.set now id ⟨id, name, .pending⟩ ttl

/-- Notes how the look-up of a job ended, if the job is still remembered. -/
def complete (jobs : Jobs) (now ttl : Double) (id : String) (outcome : JobOutcome) :
    Option Job × Jobs :=
  match jobs.read now id with
  | (none, jobs) => (none, jobs)
  | (some job, jobs) =>
    let settled : Job := ⟨id, job.name, .settled outcome⟩
    (some settled, jobs.set now id settled ttl)

end Jobs

/-- The fields that tell how a look-up ended. -/
def JobOutcome.fields : JobOutcome → List (String × Value)
  | .success kind id =>
    [("status", .text "success"), ("prefix", .text kind.mark), ("channelId", .text id)]
  | .notFound kind => [("status", .text "not_found"), ("prefix", .text kind.mark)]
  | .failed error message =>
    [("status", .text "failed"), ("error", .text error)] ++
      (message.map fun m => ("message", Value.text m)).toList

/-- A job as a value. -/
def Job.toValue (j : Job) : Value :=
  let status :=
    match j.status with
    | .pending => [("status", Value.text "pending")]
    | .settled outcome => outcome.fields
  .ofFields (status ++ [("id", .text j.id), ("name", .text j.name)])

end AlertRelay.Channel
