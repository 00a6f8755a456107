import AlertRelay.Program.Basic

/-!
Calls to Slack.

One call is one request: it is not repeated, and whatever goes wrong with it becomes an
`ApiError`.  Only a client that cannot be made fails for its own reason, and so does the making
of an `ApiError` itself, from what has no text for its message.
-/

namespace AlertRelay.Slack

open Program

/-- The failure of a call that threw a value: errors of calls pass unchanged, and a value of
which no message can be made leaves the reason for that. -/
def failureOf (method : String) (thrown : Value) : Failure :=
  if isApiError thrown then .foreign thrown
  else (thrown.messageSource.textFailure? []).elim (.slack (.ofThrown method thrown)) .foreign

/-- What a call throws when it was thrown a value. -/
def toApiError (method : String) (thrown : Value) : Value :=
  (failureOf method thrown).toValue

/-- The error for an answer that is nothing at all. -/
def absentAnswerError (answer : Value) : Value :=
  .error none .typeError
    [("message", .text ("Cannot read properties of " ++ answer.display ++ " (reading 'ok')"))]

/-- What comes of a call: its answer if that is ok, else a failure. -/
def resultOf (method : String) : SlackReply → Except Failure Value
  | .noClient thrown => .error (.foreign thrown)
  | .threw thrown => .error (failureOf method thrown)
  | .answered answer =>
    if answer.isAbsent then .error (.foreign (absentAnswerError answer))
    else if (answer.get "ok").isTruthy then .ok answer
    else
      .error (((answer.get "error").textFailure? []).elim (.slack (.ofAnswer method answer))
        .foreign)

/-- The stages from a call to whoever made it. -/
def callStages : Nat := 2

/-- Makes a call. -/
def call (c : SlackCall) : Program Value :=
  handedOn callStages do
    ofExcept (resultOf c.method (← perform (.slack c)))

end AlertRelay.Slack
