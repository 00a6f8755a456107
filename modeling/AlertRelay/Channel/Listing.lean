import AlertRelay.Slack.Call

/-!
Lists of channels and users as Slack hands them out, and the search carried out on them.
-/

namespace AlertRelay.Channel

open Program

/-- The call for a page of a list. -/
def pageCall (kind : Kind) (cursor token : String) (limit : Option Double) : SlackCall :=
  ⟨token, .undefined, kind.method, pageParams cursor limit⟩

/-- The page that comes of a call, or the failure to fetch it. -/
def pageOf (kind : Kind) (reply : SlackReply) : Except Failure Page :=
  match Slack.resultOf kind.method reply with
  | .error f => .error f
  | .ok answer => (Page.ofAnswer kind answer).mapError Failure.slack

/-- Fetches a page of a list. -/
def fetchPage (kind : Kind) (cursor token : String) (limit : Option Double) : Program Page := do
  ofExcept (pageOf kind (← perform (.slack (pageCall kind cursor token limit))))

namespace Search

/-- The call for the page that a search waits for. -/
def call (s : Search) : SlackCall :=
  pageCall s.kind s.cursor s.query.token (some pageLimit)

/-- What becomes of a search when its call comes back at a time. -/
def resume (s : Search) (reply : SlackReply) (now : Double) : Next :=
  match pageOf s.kind reply with
  | .ok page => s.receive (.page page) now
  | .error f => s.receive (.failed f) now

end Search

/-- Searches all lists for a name. -/
def search (q : Query) : Program Outcome := do
  ofExcept (← perform (.search (Search.start q Kind.searchOrder)))

end AlertRelay.Channel
