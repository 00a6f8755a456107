import AlertRelay.Config

/-!
At which level the web server logs a request that it has answered.
-/

namespace AlertRelay.Log

/-- The level of an answered request: an error, or nothing at all. -/
inductive RequestLevel where
  | error
  | silent
deriving DecidableEq, Repr

def RequestLevel.name : RequestLevel → String
  | .error => "error"
  | .silent => "silent"

/-- The level of a request that was answered with a status: an error if one was thrown, or if
the status blames the server. -/
def requestLevel (thrown : Value) (status : Double) : RequestLevel :=
  match thrown with
  | .error _ _ _ => .error
  | _ => if Double.le 500 status then .error else .silent

/-- The least level that is logged: a given one, else that of the environment. -/
def configuredLevel (given : Option String) (env : Config.Environment) : String :=
  (given.or (env.lookup "LOG_LEVEL")).getD "info"

end AlertRelay.Log
