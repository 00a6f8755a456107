import AlertRelay.Log.Secret
import AlertRelay.Value.Json

/-!
Values made safe for the log.

`Sanitized.ofValues` turns the values that accompany a log record into a finite tree: secrets
are replaced, texts cut after 2000 units, lists and records after 100 entries, causes of
errors after three errors, and a list or record that was already written is only named.
-/

namespace AlertRelay.Log

open AlertRelay.Text

/-- A text as it is logged: whole, or cut with the number of units left out.  A cut through a
character keeps its first half. -/
inductive LogText where
  | whole (s : List Char)
  | cutOff (kept : List Char) (half : Option Nat) (omitted : Nat)
deriving DecidableEq, Repr

/-- The longest text, in units, that is logged whole. -/
def maxText : Nat := 2000

/-- The most entries of a list or a record that are logged. -/
def maxEntries : Nat := 100

/-- The number of nested values after which the cause of an error is not followed. -/
def maxDepth : Nat := 3

/-- The longest context, in units of its JSON text, that is logged. -/
def maxContext : Nat := 20000

/-- A text without credentials, cut if it is long. -/
def LogText.ofText (s : String) : LogText :=
  let clean := redact s.toList
  let length := unitCount clean
  if length ≤ maxText then .whole clean
  else
    let (kept, half) := cut maxText clean
    .cutOff kept half (length - maxText)

/-- The mark after a text that was cut. -/
def omissionMark (n : Nat) : List Char :=
  "…(+".toList ++ Double.digitsOf n ++ " chars)".toList

/-- The JSON text of a logged text. -/
def LogText.jsonChars : LogText → List Char
  | .whole s => Json.quoted s
  | .cutOff kept half omitted =>
    '\x22' :: (kept.flatMap Json.quotedChar ++ half.elim [] Json.unitEscape ++
      omissionMark omitted ++ ['\x22'])

/-- A value made safe for the log.  `inherited` holds names that a record has without listing
them. -/
inductive Sanitized where
  | undefined
  | null
  | bool (b : Bool)
  | number (n : Double)
  | text (t : LogText)
  | list (items : List Sanitized)
  | record (inherited : List String) (fields : List (String × Sanitized))

namespace Sanitized

/-- A text that is logged as it is. -/
def plain (s : String) : Sanitized :=
  .text (.whole s.toList)

/-- What stands for the value of a secret field. -/
def redactedMark : Sanitized := plain "[REDACTED]"

/-- What stands for a list or record that was already written. -/
def circularMark : Sanitized := plain "[Circular]"

/-- What stands for a cause that is too deep. -/
def truncatedMark : Sanitized := plain "[Truncated]"

/-- The names that a value passes on to a record which inherits from it. -/
def namesOf : Sanitized → List String
  | .record inherited fields => fields.map (·.1) ++ inherited
  | _ => []

/-- Builds a record entry by entry.  The entry `__proto__` is not listed: the record inherits
the names of its value instead. -/
def ofEntries (inherited : List String) (fields : List (String × Sanitized)) :
    List (String × Sanitized) → Sanitized
  | [] => .record inherited fields
  | (k, v) :: rest =>
    if k = "__proto__" then ofEntries (namesOf v) fields rest
    else ofEntries inherited (Assoc.put k v fields) rest

mutual

/-- A value as its JSON text shows it, unread. -/
def ofRaw : Value → Sanitized
  | .undefined => .undefined
  | .null => .null
  | .bool b => .bool b
  | .number n => .number n
  | .text s => plain s
  | .date (some ms) => plain (Instant.text ms)
  | .date none => .null
  | .list _ items => .list (ofRawItems items)
  | .record _ fields => .record [] (ofRawFields fields)
  | .error _ kind fields => .record [] (ofRawErrorFields kind fields)
  | _ => .record [] []

def ofRawItems : List Value → List Sanitized
  | [] => []
  | v :: rest => ofRaw v :: ofRawItems rest

def ofRawFields : List (String × Value) → List (String × Sanitized)
  | [] => []
  | (k, v) :: rest => (k, ofRaw v) :: ofRawFields rest

def ofRawErrorFields (kind : ErrorClass) : List (String × Value) → List (String × Sanitized)
  | [] => []
  | (k, v) :: rest =>
    if kind.lists k then (k, ofRaw v) :: ofRawErrorFields kind rest
    else ofRawErrorFields kind rest

end

/-- What has been met on the way: the lists and records already written, and the errors that
enclose the present value. -/
structure Met where
  written : List Nat
  enclosing : List (Nat × Value)

/-- How the cause of an error is continued: from its depth and what has been met. -/
abbrev CauseReader := Nat → Met → Value → Sanitized × Met

/-- Whether a container was already written. -/
def Met.has (met : Met) (id : Option Nat) : Bool :=
  match id with
  | some n => met.written.contains n
  | none => false

/-- Notes that a container is being written. -/
def Met.write (met : Met) (id : Option Nat) : Met :=
  match id with
  | some n => { met with written := n :: met.written }
  | none => met

/-- The error that encloses the present value and has that identity. -/
def Met.error? (met : Met) (id : Nat) : Option Value :=
  (met.enclosing.find? (·.1 == id)).map (·.2)

/-- The message or the stack of an error, without credentials.  An error where it is no text cannot
be logged at all, so that what is given for it stands for nothing. -/
def messageOf (v : Value) : Sanitized :=
  match v with
  | .text s => .text (LogText.ofText s)
  | .undefined => .text (.whole [])
  | other => ofRaw other

/-- The entries of an error before its cause: name, message, and, where there is one, a
textual code and a stack. -/
def errorEntries (kind : ErrorClass) (fields : List (String × Value)) :
    List (String × Sanitized) :=
  let name := (Assoc.get? "name" fields).elim (plain kind.name) ofRaw
  let message := (Assoc.get? "message" fields).elim (plain "") messageOf
  let code :=
    match Assoc.get? "code" fields with
    | some (.text s) => [("code", plain s)]
    | _ => []
  let stack :=
    match Assoc.get? "stack" fields with
    | some v => if v.isTruthy then [("stack", messageOf v)] else []
    | none => []
  [("name", name), ("message", message)] ++ code ++ stack

/-- An error: its entries, and its cause unless that is too deep. -/
def ofError (follow : CauseReader) (depth : Nat) (met : Met) (id : Option Nat)
    (kind : ErrorClass) (fields : List (String × Value)) : Sanitized × Met :=
  let entries := errorEntries kind fields
  match Assoc.get? "cause" fields with
  | none => (.record [] entries, met)
  | some .undefined => (.record [] entries, met)
  | some cause =>
    if maxDepth ≤ depth + 1 then (.record [] (entries ++ [("cause", truncatedMark)]), met)
    else
      let inner : Met :=
        match id with
        | some n => { met with enclosing := (n, .error id kind fields) :: met.enclosing }
        | none => met
      let (safe, after) := follow (depth + 1) inner cause
      (.record [] (entries ++ [("cause", safe)]), { met with written := after.written })

mutual

/-- Makes a value safe, continuing causes of errors by `follow`. -/
def ofValueWith (follow : CauseReader) (depth : Nat) (met : Met) : Value → Sanitized × Met
  | .undefined => (.undefined, met)
  | .null => (.null, met)
  | .bool b => (.bool b, met)
  | .number n => (.number n, met)
  | .bigint n => (plain (toString n), met)
  | .text s => (.text (LogText.ofText s), met)
  | .date _ => (.record [] [], met)
  | .list id items =>
    if met.has id then (circularMark, met)
    else
      let (safe, met) := ofItemsWith follow (depth + 1) (met.write id) maxEntries items
      (.list safe, met)
  | .record id fields =>
    if met.has id then (circularMark, met)
    else
      let (safe, met) :=
        ofFieldsWith follow (depth + 1) (met.write id) fields.length maxEntries fields
      (ofEntries [] [] safe, met)
  | .error id kind fields => ofError follow depth met id kind fields
  | .again n =>
    match met.error? n with
    | some (.error id kind fields) => ofError follow depth met id kind fields
    | _ => (circularMark, met)

/-- The first `left` items, made safe from left to right. -/
def ofItemsWith (follow : CauseReader) (depth : Nat) (met : Met) (left : Nat) :
    List Value → List Sanitized × Met
  | [] => ([], met)
  | v :: rest =>
    match left with
    | 0 => ([], met)
    | left + 1 =>
      let (safe, met) := ofValueWith follow depth met v
      let (more, met) := ofItemsWith follow depth met left rest
      (safe :: more, met)

/-- The first `left` fields, made safe from left to right, and a note on the others of
`total`. -/
def ofFieldsWith (follow : CauseReader) (depth : Nat) (met : Met) (total left : Nat) :
    List (String × Value) → List (String × Sanitized) × Met
  | [] => ([], met)
  | (k, v) :: rest =>
    match left with
    | 0 =>
      let note := "[+" ++ String.ofList (Double.digitsOf (total - maxEntries)) ++ " keys omitted]"
      ([("__truncated__", plain note)], met)
    | left + 1 =>
      if isSecretName k then
        let (more, met) := ofFieldsWith follow depth met total left rest
        ((k, redactedMark) :: more, met)
      else
        let (safe, met) := ofValueWith follow depth met v
        let (more, met) := ofFieldsWith follow depth met total left rest
        ((k, safe) :: more, met)

end

/-- Makes a value safe, following at most `causes` causes below one another. -/
def ofValueUpTo : Nat → CauseReader
  | 0 => ofValueWith fun _ met _ => (truncatedMark, met)
  | causes + 1 => ofValueWith (ofValueUpTo causes)

/-- Makes a value safe.  A cause is followed only below depth three, hence at most twice. -/
def ofValue (depth : Nat) (met : Met) (v : Value) : Sanitized × Met :=
  ofValueUpTo (maxDepth - 1) depth met v

/-- Makes values safe from left to right; each starts at depth zero. -/
def ofValuesFrom (met : Met) : List Value → List Sanitized
  | [] => []
  | v :: rest =>
    let (safe, met) := ofValue 0 met v
    safe :: ofValuesFrom met rest

mutual

/-- The JSON text of a sanitized value. -/
def jsonChars : Sanitized → List Char
  | .undefined => "null".toList
  | .null => "null".toList
  | .bool b => (if b then "true" else "false").toList
  | .number n => (if n.isFinite then n.text else "null").toList
  | .text t => t.jsonChars
  | .list items => '[' :: Value.withCommas (jsonItems items) ++ [']']
  | .record _ fields =>
    '\x7b' :: Value.withCommas ((listedFields (jsonFields fields)).map (·.2)) ++ ['\x7d']

def jsonItems : List Sanitized → List (List Char)
  | [] => []
  | v :: rest => jsonChars v :: jsonItems rest

/-- The fields that are written, each with its name and its whole text. -/
def jsonFields : List (String × Sanitized) → List (String × List Char)
  | [] => []
  | (_, .undefined) :: rest => jsonFields rest
  | (k, v) :: rest => (k, Json.quoted k.toList ++ ':' :: jsonChars v) :: jsonFields rest

end

/-- What is logged in place of a context that is too long. -/
def oversized : List Sanitized :=
  let note := "context truncated after " ++ String.ofList (Double.digitsOf maxContext) ++ " chars"
  [.record [] [("__truncated__", plain note)]]

/-- The values that accompany a log record, made safe. -/
def ofValues (values : List Value) : List Sanitized :=
  let safe := ofValuesFrom ⟨[], []⟩ values
  if maxContext < unitCount (jsonChars (.list safe)) then oversized else safe

end Sanitized

end AlertRelay.Log
