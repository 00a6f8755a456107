import AlertRelay.Number.OfText
import AlertRelay.Value.Json
import AlertRelay.Web.Exchange
import AlertRelay.Web.MediaType

/-!
Bodies of requests.

The type that a request names tells how its body is read: as JSON, as a form, or as plain
text.
-/

namespace AlertRelay.Web

open AlertRelay.Text

/-- Why a body cannot be read. -/
inductive BodyFault where
  | unsupported (type : Option String)
  | tooLarge
  | wrongLength
  | emptyJson
  | forbiddenName
  | noConstructor
  | malformed
deriving DecidableEq, Repr

namespace BodyFault

/-- The answer to a request whose body cannot be read. -/
def response : BodyFault → Response
  | .unsupported type =>
    plain 415 ("Unsupported Media Type: " ++ type.getD "undefined")
  | .tooLarge => plain 413 "Request body is too large"
  | .wrongLength => plain 400 "Request body size did not match Content-Length"
  | .emptyJson =>
    plain 400 "Body cannot be empty when content-type is set to 'application/json'"
  | .forbiddenName => refused "Object contains forbidden prototype property"
  | .noConstructor => plain 400 "Cannot convert undefined or null to object"
  | .malformed => refused "Malformed JSON"
where
  plain (status : Nat) (message : String) : Response :=
    .ofValue status
      (.ofFields [("statusCode", .number (.ofNat status)), ("message", .text message)])
  refused (message : String) : Response :=
    .ofValue 400
      (.ofFields [("message", .text message), ("error", .text "Bad Request"),
        ("statusCode", .number 400)])

end BodyFault

/-- Names of fields that could reach beyond the record that holds them. -/
def forbiddenName : String := "__proto__"
def constructorName : String := "constructor"
def prototypeName : String := "prototype"

/-- What is wrong with the fields of one record: a forbidden name, or a constructor that has a
prototype, or that is null and cannot be asked for one. -/
def recordFault? (fields : List (String × Value)) : Option BodyFault :=
  if (Assoc.get? forbiddenName fields).isSome then some .forbiddenName
  else
    match Assoc.get? constructorName fields with
    | some .null => some .noConstructor
    | some (.record _ inner) =>
      if (Assoc.get? prototypeName inner).isSome then some .forbiddenName else none
    | _ => none

mutual

/-- What is wrong with the records of a value, each fault with its depth. -/
def faults (depth : Nat) : Value → List (Nat × BodyFault)
  | .list _ items => itemFaults (depth + 1) items
  | .record _ fields =>
    ((recordFault? fields).map fun f => (depth, f)).toList ++ fieldFaults (depth + 1) fields
  | _ => []

def itemFaults (depth : Nat) : List Value → List (Nat × BodyFault)
  | [] => []
  | v :: rest => faults depth v ++ itemFaults depth rest

def fieldFaults (depth : Nat) : List (String × Value) → List (Nat × BodyFault)
  | [] => []
  | (_, v) :: rest => faults depth v ++ fieldFaults depth rest

end

/-- The first of the faults that are least deep. -/
def outermost? : List (Nat × BodyFault) → Option (Nat × BodyFault)
  | [] => none
  | first :: rest =>
    match outermost? rest with
    | some other => if other.1 < first.1 then some other else some first
    | none => some first

/-- Reads a body of JSON; a byte order mark before it does not count. -/
def readJson (body : List Char) : Except BodyFault Value :=
  if body.isEmpty then .error .emptyJson
  else
    match Value.ofJsonChars? ((dropBeginning? ['\uFEFF'] body).getD body) with
    | none => .error .malformed
    | some v => (outermost? (faults 0 v)).elim (.ok v) fun f => .error f.2

/-- The forms of bodies that can be read. -/
inductive BodyType where
  | json
  | form
  | plain
deriving DecidableEq, Repr

/-- The name of a type. -/
def BodyType.name : BodyType → String
  | .json => "application/json"
  | .form => "application/x-www-form-urlencoded"
  | .plain => "text/plain"

/-- The type that a header names: the name of the type, or a media type that contains it. -/
def BodyType.ofHeader? (header : String) : Option BodyType :=
  let types := [BodyType.form, .json, .plain]
  (types.find? fun t => t.name == header).or
    ((mediaType? header.toList).bind fun type => types.find? fun t => contains t.name.toList type)

/-- Reads a body of a type. -/
def BodyType.read (body : String) : BodyType → Except BodyFault Value
  | .json => readJson body.toList
  | .form => .ok (formFields body.toList)
  | .plain => .ok (.text body)

/-- The number of bytes of the body. -/
def Request.bodySize (r : Request) : Nat :=
  (r.body.getD "").utf8ByteSize

/-- The length that is named for the body: the given one, else that of the body if there is
one. -/
def Request.namedLength (r : Request) : Option String :=
  (r.header? "content-length").or
    (if r.bodySize = 0 then none else some (Double.ofNat r.bodySize).text)

/-- Whether a body is announced: by its length, or as sent in pieces. -/
def Request.announcesBody (r : Request) : Bool :=
  (r.header? "transfer-encoding").isSome || r.namedLength.any (· != "0")

/-- Methods for which a body is usual. -/
def bodyMethods : List String :=
  ["POST", "PUT", "PATCH", "TRACE", "SEARCH", "PROPFIND", "PROPPATCH", "LOCK"]

/-- Whether the body of a request is looked at: where one is usual, if it is announced or its
type is named, and where something is deleted, if both. -/
def Request.readsBody (r : Request) : Bool :=
  let typed := (r.header? "content-type").isSome
  if bodyMethods.contains r.method then typed || r.announcesBody
  else r.method == "DELETE" && typed && r.announcesBody

/-- The most bytes that a body may have. -/
def bodyLimit : Nat := 1048576

/-- What is wrong with the length of a body: it is too long, or not as long as it is said to
be. -/
def Request.lengthFault? (r : Request) : Option BodyFault :=
  let named := r.namedLength.elim .nan Double.ofText
  if Double.lt (.ofNat bodyLimit) named || bodyLimit < r.bodySize then some .tooLarge
  else if named.isNaN || named == .ofNat r.bodySize then none
  else some .wrongLength

/-- The body of a request; one that is not looked at is undefined. -/
def Request.readBody (r : Request) : Except BodyFault Value :=
  if r.readsBody then
    let type := (r.header? "content-type").filter (· != "")
    match type.bind BodyType.ofHeader? with
    | some t => r.lengthFault?.elim (t.read (r.body.getD "")) .error
    | none => .error (.unsupported type)
  else .ok .undefined

end AlertRelay.Web
