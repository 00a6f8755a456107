import AlertRelay.Web.Location
import AlertRelay.Web.FormQuery

/-!
Links without identifiers.

`Link.scrub?` reduces an address of the web application to the kind of page it leads to:
what follows `organizations`, `issues` or `events` in the path becomes a placeholder, and so
does the project named in the query.  Links to different issues of one kind then agree.
-/

namespace AlertRelay.Link

open AlertRelay.Web AlertRelay.Text

/-- The placeholder of the segment after the given one. -/
def placeholder? (segment : List Char) : Option (List Char) :=
  if segment = "organizations".toList then some "\x7borganization\x7d".toList
  else if segment = "issues".toList then some "\x7bissue_id\x7d".toList
  else if segment = "events".toList then some "\x7bevent_id\x7d".toList
  else none

/-- The segments with each identifier replaced.  A segment that has become a placeholder
announces no further one. -/
def scrubSegments : List (List Char) → List (List Char)
  | [] => []
  | [last] => [last]
  | segment :: next :: rest =>
    match placeholder? segment with
    | some mark => segment :: mark :: scrubSegments rest
    | none => segment :: scrubSegments (next :: rest)

/-- The texts with a slash between them. -/
def joinSlash : List (List Char) → List Char
  | [] => []
  | [last] => last
  | segment :: rest => segment ++ '/' :: joinSlash rest

/-- The named values of a query without the identity of a project. -/
def scrubQuery (f : Form) : Form :=
  f.replace "project".toList "\x7bproject\x7d".toList

/-- The scrubbed form of a location. -/
def scrub (l : Location) : List Char :=
  joinSlash (scrubSegments (splitAt '/' (trimBy (· == '/') l.path))) ++
    '/' :: (scrubQuery (Form.read l.query)).text

/-- The scrubbed form of an address, if it is a valid one. -/
def scrub? (address : String) : Option String :=
  (Location.read? address.toList).map fun l => String.ofList (scrub l)

example :
    scrub? "/organizations/acme/issues/42/?project=7" =
      some "organizations/\x7borganization\x7d/issues/\x7bissue_id\x7d/project=%7Bproject%7D" := by
  decide +kernel

end AlertRelay.Link
