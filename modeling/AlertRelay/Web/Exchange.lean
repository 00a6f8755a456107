import AlertRelay.Web.Location
import AlertRelay.Web.QueryFields

/-!
Requests to the web server, and its responses.
-/

namespace AlertRelay.Web

open AlertRelay.Text

/-- A request.  The names of its headers are in lower case; without a body it has none. -/
structure Request where
  method : String
  address : String
  headers : Assoc String
  body : Option String

/-- The header of a name. -/
def Request.header? (r : Request) (name : String) : Option String :=
  r.headers.get? name

/-- What a response carries. -/
inductive Content where
  | nothing
  | text (s : String)
  | json (v : Value)

/-- A response.  The names of its headers are in lower case. -/
structure Response where
  status : Nat
  headers : Assoc String
  content : Content

/-- A response that carries a value. -/
def Response.ofValue (status : Nat) (v : Value) : Response :=
  ⟨status, [("content-type", "application/json; charset=utf-8")], .json v⟩

/-- A response without content. -/
def Response.empty (status : Nat) : Response :=
  ⟨status, [], .nothing⟩

/-- A response with more headers. -/
def Response.withHeaders (r : Response) (headers : Assoc String) : Response :=
  { r with headers := headers ++ r.headers }

/-- What a request is directed at: the whole text, and in it the path and the query. -/
structure Target where
  text : List Char
  path : List Char
  query : List Char
deriving DecidableEq, Repr

/-- Characters that end the path of a target. -/
def endsPath (c : Char) : Bool :=
  c == '?' || c == ';' || c == '#'

/-- The target with a text. -/
def Target.ofText (text : List Char) : Target :=
  ⟨text, text.takeWhile (!endsPath ·), (text.dropWhile (!endsPath ·)).drop 1⟩

/-- The target of an address, if that is valid.  Two slashes at its beginning belong to the
path and name no host. -/
def Target.read? (address : List Char) : Option Target :=
  let whole :=
    if (dropBeginning? "//".toList address).isSome then "http://localhost".toList ++ address
    else address
  (Location.read? whole).map fun l => .ofText l.text

/-- The segments of a path, if each of them can be read. -/
def Target.segments? (t : Target) : Option (List String) :=
  (splitAt '/' (t.path.drop 1)).mapM fun segment => (percentRead? segment).map String.ofList

example :
    (Target.read? "/a/b%2Fc;x=1".toList).bind Target.segments? = some ["a", "b/c"] := by
  decide +kernel

end AlertRelay.Web
