import AlertRelay.Number.Double

/-!
The kinds of Slack lists in which a name is looked up.
-/

namespace AlertRelay.Channel

/-- Channels and users: each kind has a list of its own. -/
inductive Kind where
  | channel
  | user
deriving DecidableEq, Repr

namespace Kind

/-- The mark before names of a kind. -/
def mark : Kind → String
  | .channel => "#"
  | .user => "@"

/-- The name of the list of a kind. -/
def listName : Kind → String
  | .channel => "conversations"
  | .user => "users"

/-- The call that gives the list of a kind. -/
def method (k : Kind) : String :=
  k.listName ++ ".list"

/-- The field of an answer that holds the items of a kind. -/
def itemsField : Kind → String
  | .channel => "channels"
  | .user => "members"

/-- The kinds in the order in which they are searched. -/
def searchOrder : List Kind := [.channel, .user]

end Kind

/-- A name without the marks before it. -/
def bareName (name : String) : String :=
  String.ofList (name.toList.dropWhile fun c => c == '#' || c == '@')

end AlertRelay.Channel
