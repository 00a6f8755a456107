import AlertRelay.Value.Display

/-!
Failures of calls to Slack.

Whatever goes wrong with a call, be it the network, a limit, or an answer that is not ok,
becomes one `ApiError` with a normalized code.
-/

namespace AlertRelay.Slack

/-- A failed call.  `code` is normalized, `slackError` is the name that Slack itself gave,
`undefined` if there was none. -/
structure ApiError where
  message : String
  code : Value
  method : String
  slackError : Value
  statusCode : Option Double
  retryAfterMs : Option Double

/-- The code for an error without a name. -/
def unknownCode : String := "unknown_error"

/-- The code for an error that Slack named: names for a rejected token are one code, and so
are those for too many calls. -/
def normalizedCode (name : String) : String :=
  if name = "" then unknownCode
  else if ["invalid_auth", "not_authed", "account_inactive", "token_revoked"].contains name then
    "auth_error"
  else if name = "ratelimited" then "rate_limited"
  else name

/-- The code for what an answer names as its error. -/
def codeOfAnswer (name : Value) : Value :=
  match name with
  | .text s => .text (normalizedCode s)
  | v => if v.isTruthy then v else .text unknownCode

/-- The error of an answer to a call that is not ok. -/
def ApiError.ofAnswer (method : String) (answer : Value) : ApiError :=
  let name := answer.get "error"
  let shown := if name.isAbsent then unknownCode else name.display
  { message := "Slack API error: " ++ shown
    code := codeOfAnswer name
    method
    slackError := name
    statusCode := none
    retryAfterMs := none }

/-- The code of a thrown error, from its own code, the name that Slack gave, and the status
of the answer. -/
def codeOfThrown (own : Value) (slackError : Option String) (status : Option Double) : String :=
  let named := slackError.elim unknownCode normalizedCode
  match own with
  | .text "slack_webapi_rate_limited_error" => "rate_limited"
  | .text "slack_webapi_http_error" =>
    if status = some 429 then "rate_limited"
    else "http_" ++ status.elim "error" Double.text
  | .text "slack_webapi_request_error" => "request_error"
  | _ => named

/-- Whether a thrown value is already the error of a call. -/
def isApiError : Value → Bool
  | .error _ .slackApi _ => true
  | _ => false

/-- The error of a call that threw a value. -/
def ApiError.ofThrown (method : String) (thrown : Value) : ApiError :=
  let message := thrown.thrownMessage
  if thrown.isKeyed then
    let data := thrown.get "data"
    let slackError := if data.isKeyed then (data.get "error").text? else none
    let status := (thrown.get "statusCode").number?
    let retry :=
      match (thrown.get "retryAfter").number? with
      | some seconds => if seconds.isFinite then some (seconds.mul 1000) else none
      | none => none
    { message
      code := .text (codeOfThrown (thrown.get "code") slackError status)
      method
      slackError := slackError.elim .undefined .text
      statusCode := status
      retryAfterMs := retry }
  else
    { message
      code := .text unknownCode
      method
      slackError := .undefined
      statusCode := none
      retryAfterMs := none }

/-- The error as a value that can be thrown. -/
def ApiError.toValue (e : ApiError) : Value :=
  .error none .slackApi
    [("message", .text e.message), ("name", .text "SlackApiError"), ("code", e.code),
      ("method", .text e.method), ("slackError", e.slackError),
      ("statusCode", e.statusCode.elim .undefined .number),
      ("retryAfterMs", e.retryAfterMs.elim .undefined .number)]

/-- The message for a name that several people go by. -/
def duplicateNameMessage (displayName : String) (domain : Option String) : String :=
  let hint :=
    match domain with
    | some d =>
      if d = "" then "found on your Slack account page"
      else "found at " ++ d ++ ".slack.com/account#account"
    | none => "found on your Slack account page"
  "Multiple users were found with display name '" ++ displayName ++
    "'. Please use your username, " ++ hint ++ "."

end AlertRelay.Slack
