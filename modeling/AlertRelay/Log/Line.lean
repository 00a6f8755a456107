import AlertRelay.Log.Sanitized

/-!
Lines of the structured log.

A record has an instant, a level and a message, and is written as one JSON object on a line
of its own.  A single record of context is merged into it, unless that would hide one of the
three; any other context stands under `context`.
-/

namespace AlertRelay.Log

/-- The level of a record. -/
inductive Level where
  | info
  | debug
  | warn
  | error
deriving DecidableEq, Repr

namespace Level

/-- The name of a level in a record. -/
def label : Level → String
  | .info => "INFO"
  | .debug => "DEBUG"
  | .warn => "WARN"
  | .error => "ERROR"

/-- The name of the output channel of a level. -/
def channel : Level → String
  | .info => "info"
  | .debug => "debug"
  | .warn => "warn"
  | .error => "error"

/-- The level whose channel has that name. -/
def ofChannel? (s : String) : Option Level :=
  [Level.info, .debug, .warn, .error].find? (·.channel == s)

end Level

/-- The names that context may not hide. -/
def reservedNames : List String := ["ts", "level", "message"]

/-- The fields that a sanitized context adds to a record. -/
def contextFields (context : List Sanitized) : List (String × Sanitized) :=
  match context with
  | [] => []
  | [.record inherited fields] =>
    if (fields.map (·.1) ++ inherited).any reservedNames.contains then
      [("context", .list context)]
    else fields
  | _ => [("context", .list context)]

/-- A log record with its sanitized context. -/
def record (now : Int) (level : Level) (message : String) (context : List Sanitized) :
    Sanitized :=
  let envelope := [("ts", Sanitized.plain (Instant.text now)),
    ("level", .plain level.label), ("message", .plain message)]
  .record [] (envelope ++ contextFields context)

/-- A line of the log. -/
def line (now : Int) (level : Level) (message : String) (context : List Value) : String :=
  String.ofList (record now level message (Sanitized.ofValues context)).jsonChars

example :
    line 0 .warn "started" [.ofFields [("apiKey", .number 5), ("port", .number 80)]] =
      "\x7b\"ts\":\"1970-01-01T00:00:00.000Z\",\"level\":\"WARN\",\"message\":\"started\"," ++
        "\"apiKey\":\"[REDACTED]\",\"port\":80\x7d" := by
  decide +kernel

end AlertRelay.Log
