import AlertRelay.Text.Units

/-!
Routes of the web server: what a method and a path ask for.
-/

namespace AlertRelay.Web

/-- What can be asked for. -/
inductive Route where
  | readPreference
  | storePreference
  | removePreference
  | startLookup (integrationId : String)
  | readLookup (jobId : String)
  | readIdentity (integrationId : String)
deriving DecidableEq, Repr

namespace Route

/-- The longest segment, in sixteen-bit units, that can stand for an identity. -/
def longestId : Nat := 100

/-- A route with an identity, unless the identity is too long. -/
def withId? (make : String → Route) (id : String) : Option Route :=
  if Text.units id ≤ longestId then some (make id) else none

/-- The route for reading something. -/
def ofGet? : List String → Option Route
  | ["api", "notification-settings"] => some .readPreference
  | ["api", "integrations", "slack", "channel-lookup", jobId] => withId? .readLookup jobId
  | ["api", "integrations", "slack", integrationId, "identity-context"] =>
    withId? .readIdentity integrationId
  | _ => none

/-- The route of a method and the segments of a path. -/
def find? (method : String) (segments : List String) : Option Route :=
  match method, segments with
  | "GET", _ => ofGet? segments
  | "HEAD", _ => ofGet? segments
  | "PUT", ["api", "notification-settings"] => some .storePreference
  | "DELETE", ["api", "notification-settings"] => some .removePreference
  | "POST", ["api", "integrations", "slack", integrationId, "channel-lookup"] =>
    withId? .startLookup integrationId
  | _, _ => none

/-- Methods for which there are routes. -/
def methods : List String := ["GET", "HEAD", "POST", "PUT", "DELETE", "OPTIONS"]

example : find? "GET" ["api", "integrations", "slack", "channel-lookup", "identity-context"] =
    some (.readLookup "identity-context") := by
  decide +kernel

example : find? "POST" ["api", "notification-settings"] = none := by decide +kernel

end Route

end AlertRelay.Web
