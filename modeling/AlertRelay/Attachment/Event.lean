import AlertRelay.Number.Double

/-!
Issues and events as they come to the attachment builders.
-/

namespace AlertRelay.Attachment

/-- What is known about the cause of an event. -/
structure Metadata where
  type : Option String
  value : Option String
  function : Option String
  directive : Option String
  uri : Option String
deriving DecidableEq, Repr

/-- The kinds of events whose attachments differ: errors, reports of broken content
policies, and all others. -/
inductive EventKind where
  | error
  | policyReport
  | other
deriving DecidableEq, Repr

def EventKind.ofName (s : String) : EventKind :=
  if s = "error" then .error
  else if s = "csp" then .policyReport
  else .other

/-- Something with a title: an issue or one of its events. -/
structure Titled where
  title : String
  kind : EventKind
  metadata : Metadata
deriving DecidableEq, Repr

/-- An event of an issue.  Its time is not a number if its date is not valid. -/
structure Event where
  titled : Titled
  id : String
  time : Double
  tags : List (String × String)
deriving DecidableEq, Repr

/-- What has become of an issue. -/
inductive IssueStatus where
  | unresolved
  | resolved
  | ignored
deriving DecidableEq, Repr

def IssueStatus.ofName (s : String) : IssueStatus :=
  if s = "resolved" then .resolved
  else if s = "ignored" then .ignored
  else .unresolved

/-- An issue: a group of like events.  The time is that of the last one. -/
structure Issue where
  titled : Titled
  id : String
  shortId : String
  status : IssueStatus
  lastSeen : Double
  projectId : String
  projectSlug : String
  organizationSlug : String
  latestEvent : Option Event
deriving DecidableEq, Repr

/-- The title of an issue or event in an attachment: the type of an error, the broken rule of
a policy report, else its own title. -/
def Titled.heading (t : Titled) : String :=
  match t.kind with
  | .error => t.metadata.type.getD t.title
  | .policyReport => t.metadata.directive.getD "" ++ " - " ++ t.metadata.uri.getD ""
  | .other => t.title

/-- A text, unless it is empty. -/
def nonEmpty? (s : Option String) : Option String :=
  s.filter (· != "")

/-- The text of an attachment: the value of an error, else the function it arose in. -/
def Titled.detail? (t : Titled) : Option String :=
  match t.kind with
  | .error => (nonEmpty? t.metadata.value).or (nonEmpty? t.metadata.function)
  | _ => none

/-- The text of an attachment about an issue, or about one event of it if one is given. -/
def detailOf? (issue : Titled) (event : Option Titled) : Option String :=
  (event.getD issue).detail?

end AlertRelay.Attachment
