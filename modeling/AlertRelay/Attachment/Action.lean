import AlertRelay.Attachment.Actor
import AlertRelay.Text.Blank

/-!
What was done to an issue from a message, in words.
-/

namespace AlertRelay.Attachment

/-- A Slack user who is linked to a user. -/
structure SlackIdentity where
  user : String
  slackId : String
deriving DecidableEq, Repr

/-- An action taken on a message: entries picked from a list, or a button pressed. -/
inductive MessageAction where
  | picked (values : List String)
  | pressed (value : String)
deriving DecidableEq, Repr

/-- What an actor's identity stands for: a team, or a user who may be linked to Slack. -/
inductive ResolvedActor where
  | team (slug : Value)
  | user (displayName slackId : Value)

/-- What is known about the identities of actors. -/
abbrev ActorLookup := String → Option ResolvedActor

/-- A mention of a Slack user. -/
def mention (slackId : String) : String :=
  "<@" ++ slackId ++ ">"

/-- An actor in a message: a team by its short name, a user by a mention or by name. -/
def ResolvedActor.text : ResolvedActor → String
  | .team slug => "#" ++ slug.display
  | .user name slackId => if slackId.isTruthy then mention slackId.display else name.display

/-- The line that says to whom an issue was assigned, if that is known. -/
def assignedText? (identity : SlackIdentity) (assignee : String) (lookup : ActorLookup) :
    Option String :=
  (lookup assignee).map fun actor =>
    "*Issue assigned to " ++ actor.text ++ " by " ++ mention identity.slackId ++ "*"

/-- The word for a status that was given to an issue. -/
def statusWord? (status : String) : Option String :=
  if status = "resolved" then some "resolved"
  else if status = "ignored" then some "ignored"
  else if status = "unresolved" then some "re-opened"
  else none

/-- The part of a button's value that names a status; what follows a colon is for the
button. -/
def statusPart (value : String) : String :=
  String.ofList (value.toList.takeWhile (· != ':'))

/-- The line that says what was done, if there is anything to say.  Of several picked entries
the first counts. -/
def actionText? (identity : SlackIdentity) (action : MessageAction) (lookup : ActorLookup) :
    Option String :=
  match action with
  | .picked [] => none
  | .picked (value :: _) => assignedText? identity value lookup
  | .pressed value =>
    (statusWord? (statusPart value)).map fun word =>
      "*Issue " ++ word ++ " by " ++ mention identity.slackId ++ "*"

end AlertRelay.Attachment
