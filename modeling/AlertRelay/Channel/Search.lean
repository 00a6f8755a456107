import AlertRelay.Channel.Page
import AlertRelay.Failure
import AlertRelay.Text.LowerCase

/-!
The search for a channel or user by name.

A search goes through the lists page by page.  An item whose name is the wanted one, in upper
or lower case, ends it at once.  A user whose display name is the wanted one is only
remembered: it is the result if the list of users ends without a better one, unless another
user goes by that display name too.

A search is a state: `needs` tells which page it waits for, and `receive` what becomes of it
when that page, or a failure to fetch it, arrives.  The deadline is looked at after every
page, so that a single slow page may pass it.
-/

namespace AlertRelay.Channel

/-- What is searched for, until when, and with whose token. -/
structure Query where
  name : String
  deadline : Double
  token : String
deriving DecidableEq, Repr

/-- How a search ends.  Each outcome tells the kind of list that was searched last. -/
inductive Outcome where
  | found (kind : Kind) (id : String)
  | notFound (kind : Kind)
  | timedOut (kind : Kind)
deriving DecidableEq, Repr

/-- A search under way: the kind of list it is in, those that come later, the cursor of the
page it waits for, and whom the display name has led to so far. -/
structure Search where
  query : Query
  kind : Kind
  later : List Kind
  cursor : String
  candidate : Option String
  ambiguous : Bool
deriving DecidableEq, Repr

/-- What arrives for a search: a page, or a failure to fetch one. -/
inductive Reply where
  | page (p : Page)
  | failed (f : Failure)

/-- A list that could not be fetched because a call to Slack failed. -/
structure ListFailure where
  kind : Kind
  failure : Failure

/-- What becomes of a search: it goes on, it ends, it gives up a list, or it fails. -/
inductive Next where
  | more (s : Search)
  | ended (o : Outcome)
  | gaveUp (o : Outcome) (why : ListFailure)
  | failed (f : Failure)

/-- The outcome if there is no list to search. -/
def nowhere : Outcome := .notFound .user

namespace Search

/-- The beginning of a list. -/
def inList (query : Query) (kind : Kind) (later : List Kind) : Search :=
  ⟨query, kind, later, "", none, false⟩

/-- The beginning of a search through lists of the given kinds. -/
def start (query : Query) : List Kind → Next
  | [] => .ended nowhere
  | kind :: later => .more (inList query kind later)

/-- What a search waits for: a page of a list, by its cursor. -/
def needs (s : Search) : Kind × String :=
  (s.kind, s.cursor)

/-- Whether an item has the wanted name, in upper or lower case. -/
def matchesName (s : Search) (item : Item) : Bool :=
  Text.lower item.name == Text.lower s.query.name

/-- Whether an item is a user with the wanted display name. -/
def matchesDisplayName (s : Search) (item : Item) : Bool :=
  s.kind == .user && item.displayName == some s.query.name

/-- Remembers a user with the wanted display name. -/
def remember (s : Search) (item : Item) : Search :=
  if s.matchesDisplayName item then
    match s.candidate with
    | none => { s with candidate := some item.id }
    | some _ => { s with ambiguous := true }
  else s

/-- What becomes of a search when its list ends. -/
def endOfList (s : Search) : Next :=
  if s.ambiguous then .failed (.duplicateName s.query.name none)
  else
    match s.candidate with
    | some id => .ended (.found s.kind id)
    | none =>
      match s.later with
      | kind :: later => .more (inList s.query kind later)
      | [] => .ended (.notFound s.kind)

/-- What becomes of a search when a page arrives at a time. -/
def receivePage (s : Search) (p : Page) (now : Double) : Next :=
  match p.items.find? s.matchesName with
  | some item => .ended (.found s.kind item.id)
  | none =>
    let s := p.items.foldl remember s
    if s.query.deadline.lt now then .ended (.timedOut s.kind)
    else
      match p.next.filter (· != "") with
      | some cursor => .more { s with cursor }
      | none => s.endOfList

/-- What becomes of a search when something arrives at a time.  A failed call to Slack ends
it without a result; any other failure is passed on. -/
def receive (s : Search) (r : Reply) (now : Double) : Next :=
  match r with
  | .page p => s.receivePage p now
  | .failed f => if f.isApiError then .gaveUp (.notFound s.kind) ⟨s.kind, f⟩ else .failed f

end Search

/-- The event that a list could not be fetched, for the log. -/
def ListFailure.event (e : ListFailure) : String :=
  "rule.slack." ++ e.kind.listName ++ "_list_failed"

/-- What the log tells about a list that could not be fetched. -/
def ListFailure.context (e : ListFailure) : Value :=
  let error := e.failure.toValue
  .ofFields [("listType", .text e.kind.listName), ("error", error.get "message"),
    ("code", error.get "code")]

/-- A run of a search: the pages it fetched, the list it gave up, and its end; `none` if it
was still under way when the run was cut off. -/
structure Run where
  fetched : List (Kind × String)
  gaveUp : Option ListFailure
  result : Option (Except Failure Outcome)

/-- Where pages come from: something with a state, that answers a request for a page and
tells the time at which the answer arrived. -/
abbrev Source (σ : Type) := σ → Kind → String → Reply × Double × σ

namespace Run

/-- A run that ends without fetching anything more. -/
def finished (r : Except Failure Outcome) : Run := ⟨[], none, some r⟩

/-- A run with one more page fetched before it. -/
def fetchedBefore (page : Kind × String) (r : Run) : Run :=
  { r with fetched := page :: r.fetched }

/-- Runs a search against a source, fetching at most so many pages. -/
def ofNext {σ : Type} (source : Source σ) : Nat → σ → Next → Run
  | _, _, .ended o => finished (.ok o)
  | _, _, .gaveUp o why => { finished (.ok o) with gaveUp := some why }
  | _, _, .failed f => finished (.error f)
  | 0, _, .more _ => ⟨[], none, none⟩
  | pages + 1, state, .more s =>
    let (reply, now, state) := source state s.kind s.cursor
    (ofNext source pages state (s.receive reply now)).fetchedBefore s.needs

end Run

/-- Runs the search for a name through lists, fetching at most so many pages. -/
def resolve {σ : Type} (source : Source σ) (kinds : List Kind) (pages : Nat) (state : σ)
    (query : Query) : Run :=
  Run.ofNext source pages state (Search.start query kinds)

/-- An outcome as a value. -/
def Outcome.toValue : Outcome → Value
  | .found kind id =>
    .ofFields [("kind", .text "found"), ("prefix", .text kind.mark), ("externalId", .text id)]
  | .notFound kind => .ofFields [("kind", .text "not_found"), ("prefix", .text kind.mark)]
  | .timedOut kind => .ofFields [("kind", .text "timed_out"), ("prefix", .text kind.mark)]

/-- The name of an outcome. -/
def Outcome.name : Outcome → String
  | .found _ _ => "found"
  | .notFound _ => "not_found"
  | .timedOut _ => "timed_out"

end AlertRelay.Channel
