import AlertRelay.Channel.Lookup
import AlertRelay.Preference.Service
import AlertRelay.Request.Forms
import AlertRelay.Web.Body
import AlertRelay.Web.Origin
import AlertRelay.Web.Route

/-!
The web server: what each request does, and what it is answered.
-/

namespace AlertRelay.Server

open Program Web

/-- The store of the server's preferences. -/
def store : Preference.Store := .database

/-- A choice as it is answered. -/
def choiceValue (c : Preference.Choice) : Value :=
  .ofFields [("value", .number c.code)]

/-- What a route does with the query and the body of a request. -/
def perform (config : Config) (query body : Value) : Route → Program Response
  | .readPreference => do
    let q ← ofExcept (Request.PreferenceQuery.ofValue query)
    return .ofValue 200 (choiceValue (← store.choiceFor config q.provider q.topic q.coordinates))
  | .storePreference => do
    let u ← ofExcept (Request.PreferenceUpdate.ofValue body)
    store.set config u.query.provider u.query.topic u.choice u.query.coordinates
    return .ofValue 200 (choiceValue u.choice)
  | .removePreference => do
    let q ← ofExcept (Request.PreferenceQuery.ofValue query)
    store.remove config q.provider q.topic q.coordinates
    return .empty 204
  | .startLookup integrationId => do
    let l ← ofExcept (Request.ChannelLookup.ofValue body)
    return .ofValue 200
      (← Channel.lookup config l.organizationId integrationId l.name).toValue
  | .readLookup jobId => return .ofValue 200 (← Channel.getJob jobId).toValue
  | .readIdentity integrationId => do
    let q ← ofExcept (Request.IdentityQuestion.ofValue query)
    return .ofValue 200
      (← Integration.findIdentityContext config q.userId q.organizationId integrationId).summary

/-- Whether responses with a status have no content. -/
def hasNoContent (status : Nat) : Bool :=
  status < 200 || status == 204

/-- The response to a failed request. -/
def failureResponse (f : Failure) : Response :=
  if hasNoContent f.answer.status then .empty f.answer.status
  else .ofValue f.answer.status f.answer.body

/-- The response to a request for something that is not there. -/
def notFound (r : Web.Request) (t : Target) : Response :=
  .ofValue 404
    (.ofFields
      [("message", .text ("Cannot " ++ r.method ++ " " ++ String.ofList t.text)),
        ("error", .text "Not Found"), ("statusCode", .number 404)])

/-- The response to a request whose path is malformed. -/
def badAddress (t : List Char) : Response :=
  ⟨400, [("content-type", "application/json")],
    .json (.ofFields
      [("error", .text "Bad Request"), ("code", .text "FST_ERR_BAD_URL"),
        ("message", .text ("'" ++ String.ofList t ++ "' is not a valid url component")),
        ("statusCode", .number 400)])⟩

/-- The response for a route, or for none.  A body of an unknown type is no matter where
nothing is found. -/
def answer (config : Config) (r : Web.Request) (t : Target) (route : Option Route) :
    Program Response :=
  match r.readBody, route with
  | .error (.unsupported _), none => return notFound r t
  | .error fault, _ => return fault.response
  | .ok _, none => return notFound r t
  | .ok body, some route => do
    match ← attempt (perform config (queryFields t.query) body route) with
    | .ok response => return response
    | .error f => return failureResponse f

/-- A response as it is sent: to a request for the head alone without its content. -/
def sent (r : Web.Request) (response : Response) : Response :=
  if r.method = "HEAD" then { response with content := .nothing } else response

/-- The response to a request for a target, with what it tells pages of other sites.  Only
where something is found can its head be asked for alone. -/
def respondTo (config : Config) (r : Web.Request) (t : Target) : Program Response := do
  let route := t.segments?.bind (Route.find? r.method)
  let response ← if r.method = "OPTIONS" then pure (preflight r) else answer config r t route
  let response := if route.isSome then sent r response else response
  return response.withHeaders ((OriginPolicy.ofConfig config).headers (r.header? "origin"))

/-- Responds to a request.  Where a method has routes, its path has to be well formed. -/
def respond (config : Config) (r : Web.Request) : Program Response := do
  match Target.read? r.address.toList with
  | none => return badAddress r.address.toList
  | some t =>
    if t.segments?.isSome then respondTo config r t
    else if Route.methods.contains r.method then return badAddress t.text
    else return notFound r t

/-- The address at which the server listens: on all networks. -/
def listenHost : String := "0.0.0.0"

end AlertRelay.Server
