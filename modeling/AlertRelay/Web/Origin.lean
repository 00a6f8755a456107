import AlertRelay.Config
import AlertRelay.Web.Exchange

/-!
Requests from pages of other sites.

A browser asks before it lets such a page use the server, and reads from the response's
headers whether it may.  The settings list the sites that may; without a list all may.
-/

namespace AlertRelay.Web

/-- Which sites may use the server. -/
inductive OriginPolicy where
  | everyone
  | asked
  | listed (origins : List String)
deriving DecidableEq, Repr

namespace OriginPolicy

/-- The policy of the settings: a star in the list stands for everyone, and an empty list lets
each site that asks. -/
def ofConfig (config : Config) : OriginPolicy :=
  if config.corsOrigins.isEmpty then .asked
  else if config.corsOrigins.contains "*" then .everyone
  else .listed config.corsOrigins

/-- What is told to a site about whether it may. -/
def allowed? (p : OriginPolicy) (origin : Option String) : Option String :=
  match p with
  | .everyone => some "*"
  | .asked => origin.filter (· != "")
  | .listed origins => origin.filter origins.contains

/-- The headers of every response: whether the site may, and that this depends on it. -/
def headers (p : OriginPolicy) (origin : Option String) : Assoc String :=
  (if p = .everyone then [] else [("vary", "Origin")]) ++
    ((p.allowed? origin).map fun o => ("access-control-allow-origin", o)).toList

end OriginPolicy

/-- Methods and headers that pages of other sites may use. -/
def allowedMethods : String := "GET, HEAD, PUT, POST, DELETE, OPTIONS"
def allowedHeaders : String := "Content-Type, Authorization, Accept"

/-- The answer to the question whether a page may use the server; it has to name the site and
the method. -/
def preflight (r : Request) : Response :=
  let isGiven (name : String) : Bool := (r.header? name).any (· != "")
  if isGiven "origin" && isGiven "access-control-request-method" then
    (Response.empty 204).withHeaders
      [("access-control-allow-methods", allowedMethods),
        ("access-control-allow-headers", allowedHeaders)]
  else ⟨400, [("content-type", "text/plain")], .text "Invalid Preflight Request"⟩

end AlertRelay.Web
