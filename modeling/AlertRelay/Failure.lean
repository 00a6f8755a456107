import AlertRelay.Number.OfText
import AlertRelay.Preference.Write
import AlertRelay.Slack.ApiError

/-!
Everything that can go wrong.

A `Failure` is the cause: something missing, a refused request, a failed call, or a value
that somebody else threw.  `Failure.toValue` is the error that is thrown for it, and
`Failure.answer` what a web request is answered.
-/

namespace AlertRelay

/-- What can be looked for and not be there. -/
inductive Missing where
  | organization
  | integration
  | identityProvider
  | lookupJob
deriving DecidableEq, Repr

/-- The name of what is missing in an answer. -/
def Missing.code : Missing → String
  | .organization => "organization_not_found"
  | .integration => "integration_not_found"
  | .identityProvider => "identity_provider_not_found"
  | .lookupJob => "lookup_job_not_found"

/-- The cause of a failure. -/
inductive Failure where
  | slack (e : Slack.ApiError)
  | duplicateName (displayName : String) (domain : Option String)
  | missing (what : Missing)
  | refused (r : Preference.Refusal)
  | invalidRequest (messages : List String)
  | writeRefused (name : String)
  | foreign (thrown : Value)

/-- An answer to a web request that failed: a status and a body. -/
structure FailureAnswer where
  status : Nat
  body : Value

namespace Failure

/-- An error with a name and a message, and further fields. -/
def errorWith (kind : ErrorClass) (name message : String) (fields : List (String × Value)) :
    Value :=
  .error none kind ([("name", .text name), ("message", .text message)] ++ fields)

/-- An error that carries the answer to a web request. -/
def answering (kind : ErrorClass) (name message : String) (fields : List (String × Value))
    (a : FailureAnswer) : Value :=
  errorWith kind name message
    (fields ++ [("response", a.body), ("status", .number (.ofNat a.status)),
      ("options", .ofFields [])])

/-- The code of a name that several people go by. -/
def duplicateNameCode : String := "duplicate_display_name"

/-- The code of a refused change of preferences. -/
def refusalCode : Preference.Refusal → String
  | .coordinates _ => "invalid_target"
  | .notAllowed _ _ => "invalid_setting_value"

/-- The name of the error for a refused change of preferences. -/
def refusalName : Preference.Refusal → String
  | .coordinates _ => "InvalidTargetError"
  | .notAllowed _ _ => "InvalidSettingValueError"

/-- A body with a code and a message. -/
def codedBody (code message : String) : Value :=
  .ofFields [("error", .text code), ("message", .text message)]

/-- A body with a status and a message. -/
def statusBody (status message : Value) : Value :=
  .ofFields [("statusCode", status), ("message", message)]

/-- The answer about a name that several people go by. -/
def duplicateAnswer (name : String) (domain : Option String) : FailureAnswer :=
  ⟨400, codedBody duplicateNameCode (Slack.duplicateNameMessage name domain)⟩

/-- The answer about something that is not there. -/
def missingAnswer (what : Missing) : FailureAnswer :=
  ⟨404, .ofFields [("error", .text what.code)]⟩

/-- The answer about a refused change of preferences. -/
def refusalAnswer (r : Preference.Refusal) : FailureAnswer :=
  ⟨400, codedBody (refusalCode r) r.message⟩

/-- The answer about a request whose values are not valid. -/
def invalidRequestAnswer (messages : List String) : FailureAnswer :=
  ⟨400, .ofFields
    [("statusCode", .number 400), ("message", .ofList (messages.map .text)),
      ("error", .text "Bad Request")]⟩

/-- The error that is thrown for a cause. -/
def toValue : Failure → Value
  | .duplicateName name domain =>
    answering .duplicateName "DuplicateDisplayNameError" (Slack.duplicateNameMessage name domain)
      [("code", .text duplicateNameCode), ("displayName", .text name),
        ("workspaceDomain", domain.elim .undefined .text)]
      (duplicateAnswer name domain)
  | .missing what => answering .http "NotFoundException" "Not Found Exception" [] (missingAnswer what)
  | .refused r =>
    answering .http (refusalName r) r.message [("code", .text (refusalCode r))] (refusalAnswer r)
  | .invalidRequest messages =>
    answering .http "BadRequestException" "Bad Request Exception" [] (invalidRequestAnswer messages)
  | .slack e => e.toValue
  | .writeRefused name => errorWith .error "Error" (name ++ " failed") []
  | .foreign v => v

/-- Whether the cause is a failed call to Slack. -/
def isApiError : Failure → Bool
  | .slack _ => true
  | .foreign v => Slack.isApiError v
  | _ => false

/-- The name that several people go by, and the workspace that was told of, if this is the
cause. -/
def duplicate? : Failure → Option (String × Option String)
  | .duplicateName name domain => some (name, domain)
  | .foreign v =>
    match v with
    | .error _ .duplicateName _ =>
      some ((v.get "displayName").text?.getD "", (v.get "workspaceDomain").text?)
    | _ => none
  | _ => none

/-- The status that a value stands for. -/
def statusOf : Value → Double
  | .bool b => if b then 1 else 0
  | .number n => n
  | .text s => Double.ofText s
  | .list i items => Double.ofText (Value.list i items).display
  | .date instant => instant.elim .nan Double.ofInt
  | _ => .nan

/-- An answer with a status that a thrown value names.  One that is not between 100 and 599 is
a failure of its own; one that counts as a no is not set. -/
def answerWith (status body : Value) : FailureAnswer :=
  let n := statusOf status
  if !status.isTruthy then ⟨200, body⟩
  else if Double.le 100 n && Double.le n 599 then ⟨(n.truncate.toInt?.getD 500).toNat, body⟩
  else
    ⟨500, statusBody (.number 500)
      (.text ("Called reply with an invalid status code: " ++ status.display))⟩

/-- What is answered for a cause that has no answer of its own: the status and message that
a thrown value brings along, or nothing in particular. -/
def foreignAnswer (v : Value) : FailureAnswer :=
  let status := v.get "statusCode"
  let message := v.get "message"
  if status.isTruthy && message.isTruthy then answerWith status (statusBody status message)
  else ⟨500, statusBody (.number 500) (.text "Internal server error")⟩

/-- The answer that a thrown error brings along. -/
def broughtAnswer (v : Value) : FailureAnswer :=
  let status := v.get "status"
  let body := v.get "response"
  answerWith status
    (if body.isKeyed || body.items?.isSome then body else statusBody status body)

/-- What a web request is answered that failed: an error that brings its answer along is
answered so, whoever threw it. -/
def answer : Failure → FailureAnswer
  | .duplicateName name domain => duplicateAnswer name domain
  | .missing what => missingAnswer what
  | .refused r => refusalAnswer r
  | .invalidRequest messages => invalidRequestAnswer messages
  | .foreign (.error i .duplicateName fields) => broughtAnswer (.error i .duplicateName fields)
  | f => foreignAnswer f.toValue

end Failure

end AlertRelay
