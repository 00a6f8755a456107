import AlertRelay.Preference.Basic
import AlertRelay.Request.Shape

/-!
The requests that the server takes: queries and updates of preferences, look-ups of channels,
and questions about identities.
-/

namespace AlertRelay.Request

open AlertRelay.Preference

/-- A preference that is asked for or removed. -/
def preferenceShape : Shape :=
  [coded "provider" (Provider.all.map (·.code)), coded "type" (Topic.all.map (·.code)),
    optional "userId", optional "teamId", optional "projectId", optional "organizationId"]

/-- A preference that is stored. -/
def updateShape : Shape :=
  coded "value" (Choice.all.map (·.code)) :: preferenceShape

/-- A channel that is looked up.  Names are limited, with room for marks before them. -/
def lookupShape : Shape :=
  [required "organizationId", ⟨"name", false, false, [.atMost 100, .notEmpty, .isText]⟩]

/-- A question about a user's identity. -/
def identityShape : Shape :=
  [required "organizationId", required "userId"]

/-- A property of a checked request as a text. -/
def textOf (fields : List (String × Value)) (name : String) : String :=
  ((Assoc.get? name fields).bind Value.text?).getD ""

/-- An identity of a checked request; an empty one counts as missing. -/
def identityOf? (fields : List (String × Value)) (name : String) : Option String :=
  ((Assoc.get? name fields).bind Value.text?).filter (· != "")

/-- A code of a checked request. -/
def codeOf (fields : List (String × Value)) (name : String) : Double :=
  ((Assoc.get? name fields).bind Value.number?).getD .nan

/-- The coordinates that a checked request gives. -/
def coordinatesOf (fields : List (String × Value)) : Coordinates :=
  { user := identityOf? fields "userId"
    team := identityOf? fields "teamId"
    project := identityOf? fields "projectId"
    organization := identityOf? fields "organizationId" }

/-- A checked question about a preference. -/
structure PreferenceQuery where
  provider : Provider
  topic : Topic
  coordinates : Coordinates
deriving DecidableEq, Repr

/-- Reads a question about a preference. -/
def PreferenceQuery.ofValue (v : Value) : Except Failure PreferenceQuery :=
  (preferenceShape.check v).map fun fields =>
    ⟨⟨codeOf fields "provider"⟩, ⟨codeOf fields "type"⟩, coordinatesOf fields⟩

/-- A checked update of a preference. -/
structure PreferenceUpdate where
  query : PreferenceQuery
  choice : Choice
deriving DecidableEq, Repr

/-- Reads an update of a preference. -/
def PreferenceUpdate.ofValue (v : Value) : Except Failure PreferenceUpdate :=
  (updateShape.check v).map fun fields =>
    ⟨⟨⟨codeOf fields "provider"⟩, ⟨codeOf fields "type"⟩, coordinatesOf fields⟩,
      ⟨codeOf fields "value"⟩⟩

/-- A checked look-up of a channel. -/
structure ChannelLookup where
  organizationId : String
  name : String
deriving DecidableEq, Repr

/-- Reads a look-up of a channel. -/
def ChannelLookup.ofValue (v : Value) : Except Failure ChannelLookup :=
  (lookupShape.check v).map fun fields => ⟨textOf fields "organizationId", textOf fields "name"⟩

/-- A checked question about a user's identity. -/
structure IdentityQuestion where
  organizationId : String
  userId : String
deriving DecidableEq, Repr

/-- Reads a question about a user's identity. -/
def IdentityQuestion.ofValue (v : Value) : Except Failure IdentityQuestion :=
  (identityShape.check v).map fun fields =>
    ⟨textOf fields "organizationId", textOf fields "userId"⟩

end AlertRelay.Request
