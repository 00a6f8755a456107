import AlertRelay.Number.OfText
import AlertRelay.Schema

/-!
The settings of the server.

`Config.ofValue` reads settings from a record of named values, and `Config.ofEnvironment`
from variables.  The address of the database has to be given; everything else has a default.
-/

namespace AlertRelay

/-- The settings of the server.  Times are in milliseconds. -/
structure Config where
  databaseUrl : String
  appBaseUrl : String
  lookupBudget : Double
  asyncLookupBudget : Double
  postTimeout : Double
  jobTtl : Double
  corsOrigins : List String
deriving DecidableEq, Repr

namespace Config

open Schema Text

/-- An address without slashes at its end. -/
def withoutSlashes (s : String) : String :=
  String.ofList (s.toList.reverse.dropWhile (· == '/')).reverse

/-- The parts of a list with commas, without white space around them and without empty
ones. -/
def commaList (s : String) : List String :=
  ((splitAt ',' s.toList).map fun part => String.ofList (trimBy isBlank part)).filter (· != "")

/-- A number if it is finite, else a number that stands in for it. -/
def finiteOr (fallback : Double) (n : Double) : Double :=
  if n.isFinite then n else fallback

/-- A time: a number or a text that stands for one.  What is not a finite number, or is not
given, is the default. -/
def time (fallback : Double) : Check Double := fun path v =>
  match v with
  | .undefined => .ok fallback
  | .text s => .ok (finiteOr fallback (Double.ofText s))
  | .number .nan => .error [⟨path, "invalid_union", "Invalid input"⟩]
  | .number n => .ok (finiteOr fallback n)
  | _ => .error [⟨path, "invalid_union", "Invalid input"⟩]

/-- A text that has a default. -/
def textOr (fallback : String) : Check String := fun path v =>
  match v with
  | .undefined => .ok fallback
  | _ => text path v

/-- The names of the settings. -/
def databaseUrlName : String := "databaseUrl"
def appBaseUrlName : String := "appBaseUrl"
def lookupBudgetName : String := "slackLookupTimeoutMs"
def asyncLookupBudgetName : String := "slackAsyncLookupTimeoutMs"
def postTimeoutName : String := "slackPostTimeoutMs"
def jobTtlName : String := "channelLookupJobTtlMs"
def corsOriginsName : String := "corsOrigins"

/-- Default times. -/
def defaultLookupBudget : Double := 10000
def defaultAsyncLookupBudget : Double := 180000
def defaultPostTimeout : Double := 5000
def defaultJobTtl : Double := 600000

/-- Reads the settings from a record; if some are wrong, gives all issues in the order of
the settings. -/
def ofValue (v : Value) : Except (List Issue) Config :=
  match record [] [] v with
  | .error es => .error es
  | .ok _ =>
    let read {α : Type} (name : String) (check : Check α) := check [name] (v.get name)
    let database := read databaseUrlName (nonEmptyText "Database connection string is required")
    let app := read appBaseUrlName (textOr "http://localhost:8000")
    let lookup := read lookupBudgetName (time defaultLookupBudget)
    let asyncLookup := read asyncLookupBudgetName (time defaultAsyncLookupBudget)
    let post := read postTimeoutName (time defaultPostTimeout)
    let job := read jobTtlName (time defaultJobTtl)
    let origins := read corsOriginsName (textOr "")
    match database, app, lookup, asyncLookup, post, job, origins with
    | .ok database, .ok app, .ok lookup, .ok asyncLookup, .ok post, .ok job, .ok origins =>
      .ok
        { databaseUrl := database
          appBaseUrl := withoutSlashes app
          lookupBudget := lookup
          asyncLookupBudget := asyncLookup
          postTimeout := post
          jobTtl := job
          corsOrigins := commaList origins }
    | _, _, _, _, _, _, _ =>
      .error (issues database ++ issues app ++ issues lookup ++ issues asyncLookup ++
        issues post ++ issues job ++ issues origins)

/-- The variables of an environment. -/
abbrev Environment := List (String × String)

/-- The variable from which each setting is read. -/
def sources : List (String × String) :=
  [(databaseUrlName, "DATABASE_URL"), (appBaseUrlName, "APP_BASE_URL"),
    (lookupBudgetName, "SLACK_LOOKUP_TIMEOUT_MS"),
    (asyncLookupBudgetName, "SLACK_ASYNC_LOOKUP_TIMEOUT_MS"),
    (postTimeoutName, "SLACK_POST_TIMEOUT_MS"), (jobTtlName, "CHANNEL_LOOKUP_JOB_TTL_MS"),
    (corsOriginsName, "CORS_ORIGINS")]

/-- The record of settings that an environment gives. -/
def recordOf (env : Environment) : Value :=
  .ofFields (sources.map fun (name, source) =>
    (name, (env.lookup source).elim .undefined .text))

/-- Reads the settings from the variables of an environment. -/
def ofEnvironment (env : Environment) : Except (List Issue) Config :=
  ofValue (recordOf env)

/-- The settings as a record. -/
def toValue (c : Config) : Value :=
  .ofFields [(databaseUrlName, .text c.databaseUrl), (appBaseUrlName, .text c.appBaseUrl),
    (lookupBudgetName, .number c.lookupBudget),
    (asyncLookupBudgetName, .number c.asyncLookupBudget),
    (postTimeoutName, .number c.postTimeout), (jobTtlName, .number c.jobTtl),
    (corsOriginsName, .ofList (c.corsOrigins.map .text))]

/-- The port of the web server: the number that a variable stands for, unless it is missing,
zero or not a number. -/
def port (env : Environment) : Double :=
  let n := (env.lookup "PORT").elim .nan Double.ofText
  if n.isNaN || n.isZero then 3020 else n

end Config

end AlertRelay
