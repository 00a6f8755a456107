import AlertRelay.Web.Host

/-!
The path and the query of a web address.

`Location.read?` reads an address, absolute or relative to the root of a site, and gives its
path and query in normal form: dot segments resolved, forbidden characters percent-encoded.
Who serves the address and its fragment are checked but not kept.
-/

namespace AlertRelay.Web

open AlertRelay.Text

/-- The part of a web address after the host, without the fragment. -/
structure Location where
  path : List Char
  query : List Char
deriving DecidableEq, Repr

/-- How the path of a scheme is read: ordinary web schemes take a backslash for a slash, and
local files may begin with a drive letter. -/
structure PathRule where
  special : Bool
  file : Bool
deriving DecidableEq, Repr

/-- Characters that are percent-encoded in a path. -/
def escapedInPath (c : Char) : Bool :=
  c.toNat ≤ 0x20 || c == '\x7F' || c == '\x22' || c == '#' || c == '<' || c == '>' ||
    c == '?' || c == '\x60' || c == '\x7b' || c == '\x7d'

/-- Characters that are percent-encoded in a path that is not split into segments. -/
def escapedInOpaque (c : Char) : Bool :=
  c.toNat ≤ 0x1F || c == '\x7F'

/-- Characters that are percent-encoded in a query. -/
def escapedInQuery (special : Bool) (c : Char) : Bool :=
  c.toNat ≤ 0x20 || c == '\x7F' || c == '\x22' || c == '#' || c == '<' || c == '>' ||
    (special && c == '\x27')

/-- A point, also in its encoded form. -/
def isSingleDot (segment : List Char) : Bool :=
  let s := segment.map Char.toLower
  s == ['.'] || s == ['%', '2', 'e']

/-- Two points, each of them possibly encoded. -/
def isDoubleDot (segment : List Char) : Bool :=
  let s := segment.map Char.toLower
  s == "..".toList || s == ".%2e".toList || s == "%2e.".toList || s == "%2e%2e".toList

/-- A letter and a colon or a bar. -/
def isDriveLetter (segment : List Char) : Bool :=
  match segment with
  | [c, d] => c.isAlpha && (d == ':' || d == '|')
  | _ => false

/-- The segments without the last one; the drive letter of a local file stays. -/
def dropSegment (rule : PathRule) (segments : List (List Char)) : List (List Char) :=
  match segments with
  | [only] => if rule.file && isDriveLetter only then [only] else []
  | _ => segments.dropLast

/-- A segment as it is kept: encoded, and a drive letter followed by a colon. -/
def keptSegment (rule : PathRule) (first : Bool) (segment : List Char) : List Char :=
  if rule.file && first && isDriveLetter segment then segment.take 1 ++ [':']
  else percentEncode escapedInPath segment

/-- Adds the segments of a path one by one, resolving dot segments.  A dot segment at the
end leaves an empty segment there. -/
def addSegments (rule : PathRule) (before : List (List Char)) :
    List (List Char) → List (List Char)
  | [] => before
  | segment :: rest =>
    if isDoubleDot segment then
      let shorter := dropSegment rule before
      if rest.isEmpty then shorter ++ [[]] else addSegments rule shorter rest
    else if isSingleDot segment then
      if rest.isEmpty then before ++ [[]] else addSegments rule before rest
    else addSegments rule (before ++ [keptSegment rule before.isEmpty segment]) rest

/-- Whether a character ends a segment. -/
def isSlash (special : Bool) (c : Char) : Bool :=
  c == '/' || (special && c == '\\')

/-- The text of a path from its segments. -/
def joinSegments (segments : List (List Char)) : List Char :=
  segments.flatMap ('/' :: ·)

/-- The path that stands after the slash that begins it. -/
def readPath (rule : PathRule) (cs : List Char) : List Char :=
  let cs := if rule.special then cs.map (fun c => if c = '\\' then '/' else c) else cs
  joinSegments (addSegments rule [] (splitAt '/' cs))

/-- The path behind a host: an ordinary web address without one has the root path. -/
def pathAfterHost (rule : PathRule) (cs : List Char) : List Char :=
  match cs with
  | [] => if rule.special then ['/'] else []
  | c :: rest => if isSlash rule.special c then readPath rule rest else readPath rule (c :: rest)

/-- The part of an authority after the last `@`; `none` if a user is named and no host. -/
def afterUser? (cs : List Char) : Option (List Char) :=
  match splitAt '@' cs with
  | [only] => some only
  | parts =>
    match parts.getLast? with
    | some (c :: rest) => some (c :: rest)
    | _ => none

/-- Splits a host from its port at the first colon that is not inside brackets. -/
def splitPort (inside : Bool) : List Char → List Char × Option (List Char)
  | [] => ([], none)
  | c :: rest =>
    if c = ':' ∧ !inside then ([], some rest)
    else
      let inside := if c = '[' then true else if c = ']' then false else inside
      let (host, port) := splitPort inside rest
      (c :: host, port)

/-- Whether an authority names a host with a port below 65536 or none. -/
def isAuthority (special : Bool) (cs : List Char) : Bool :=
  match afterUser? cs with
  | none => false
  | some server =>
    let (host, port) := splitPort false server
    let hostFits := if host.isEmpty then !special && port.isNone else isHost special host
    let portFits :=
      match port with
      | none => true
      | some digits => digits.all Numeral.isDigit && Numeral.natOf 10 digits ≤ 65535
    hostFits && portFits

/-- The path of an address from its authority on. -/
def readAuthority? (rule : PathRule) (cs : List Char) : Option (List Char) :=
  let authority := cs.takeWhile (!isSlash rule.special ·)
  let rest := cs.dropWhile (!isSlash rule.special ·)
  if isAuthority rule.special authority then some (pathAfterHost rule rest) else none

/-- The path of a relative reference to the root of an ordinary site. -/
def readRelative? (cs : List Char) : Option (List Char) :=
  let rule : PathRule := ⟨true, false⟩
  match cs with
  | [] => some ['/']
  | c :: rest =>
    if isSlash true c then
      match rest with
      | d :: _ =>
        if isSlash true d then readAuthority? rule (rest.dropWhile (isSlash true))
        else some (readPath rule rest)
      | [] => some (readPath rule rest)
    else some (readPath rule cs)

/-- The path of a local file address, after its scheme. -/
def readFile? (cs : List Char) : Option (List Char) :=
  let rule : PathRule := ⟨true, true⟩
  match cs with
  | c :: d :: rest =>
    if isSlash true c && isSlash true d then
      let host := rest.takeWhile (!isSlash true ·)
      let after := rest.dropWhile (!isSlash true ·)
      if isDriveLetter host then some (readPath rule rest)
      else if host.isEmpty || isHost true host then some (pathAfterHost rule after)
      else none
    else if isSlash true c then some (readPath rule (d :: rest))
    else some (readPath rule cs)
  | [c] => if isSlash true c then some (readPath rule []) else some (readPath rule cs)
  | [] => some (readPath rule [])

/-- Schemes of ordinary web addresses, apart from local files. -/
def specialSchemes : List String :=
  ["http", "https", "ws", "wss", "ftp"]

/-- Splits a scheme off the front: a letter, then letters, digits, `+`, `-` and `.`, up to a
colon. -/
def splitScheme? (cs : List Char) : Option (String × List Char) :=
  match cs with
  | c :: _ =>
    let isPart (c : Char) : Bool := c.isAlphanum || c == '+' || c == '-' || c == '.'
    let name := cs.takeWhile isPart
    match c.isAlpha, cs.dropWhile isPart with
    | true, ':' :: rest => some ((String.ofList name).toLower, rest)
    | _, _ => none
  | [] => none

/-- The path of an address without query and fragment, and whether its scheme is an ordinary
web scheme; `none` if the address is not valid.  An address without a scheme, or with the
site's own scheme and no host, is relative to the root of the site. -/
def readTarget? (cs : List Char) : Option (List Char × Bool) :=
  match splitScheme? cs with
  | none => (readRelative? cs).map (·, true)
  | some (scheme, rest) =>
    if scheme = "file" then (readFile? rest).map (·, true)
    else if specialSchemes.contains scheme then
      let sameAsSite := scheme == "http" && !((dropBeginning? "//".toList rest).isSome)
      if sameAsSite then (readRelative? rest).map (·, true)
      else (readAuthority? ⟨true, false⟩ (rest.dropWhile (isSlash true))).map (·, true)
    else
      match rest with
      | '/' :: '/' :: after => (readAuthority? ⟨false, false⟩ after).map (·, false)
      | '/' :: after => some (readPath ⟨false, false⟩ after, false)
      | _ => some (percentEncode escapedInOpaque rest, false)

/-- The text without the control characters and spaces around it, and without tabs and line
ends. -/
def cleanAddress (cs : List Char) : List Char :=
  (trimBy (fun c => c.toNat ≤ 0x20) cs).filter fun c => c != '\t' && c != '\n' && c != '\r'

/-- Reads the path and the query of an address; `none` if it is not valid. -/
def Location.read? (address : List Char) : Option Location :=
  let cs := (cleanAddress address).takeWhile (· != '#')
  let target := cs.takeWhile (· != '?')
  let query := (cs.dropWhile (· != '?')).drop 1
  (readTarget? target).map fun (path, special) =>
    ⟨path, percentEncode (escapedInQuery special) query⟩

/-- A path and a query as the text of a request. -/
def Location.text (l : Location) : List Char :=
  if l.query.isEmpty then l.path else l.path ++ '?' :: l.query

example : (Location.read? "/a/../b?x=1#y".toList) = some ⟨"/b".toList, "x=1".toList⟩ := by
  decide +kernel

example : Location.read? "http://h:99999/".toList = none := by decide +kernel

end AlertRelay.Web
