import AlertRelay.Assoc
import AlertRelay.Number.Double

/-!
Maps whose entries expire.

Each entry carries the instant from which on it no longer counts.  Reading an expired entry
removes it, and every write removes all expired entries first, so that they do not pile up.
-/

namespace AlertRelay

/-- An entry: what is stored, and from when on it no longer counts. -/
structure Expiring (α : Type) where
  value : α
  expiresAt : Double

/-- A map with expiring entries, in the order in which their keys were first stored. -/
structure ExpiringMap (α : Type) where
  entries : Assoc (Expiring α)

namespace ExpiringMap

variable {α : Type}

/-- The map without entries. -/
def empty : ExpiringMap α := ⟨[]⟩

/-- The keys held, expired or not. -/
def keys (m : ExpiringMap α) : List String :=
  m.entries.names

/-- The entry of a key, expired or not. -/
def entry? (m : ExpiringMap α) (key : String) : Option (Expiring α) :=
  m.entries.get? key

/-- Whether an entry no longer counts. -/
def Expired (now : Double) (e : Expiring α) : Bool :=
  e.expiresAt.le now

/-- The map without a key. -/
def erase (m : ExpiringMap α) (key : String) : ExpiringMap α :=
  ⟨m.entries.drop key⟩

/-- The value of a key that has not expired, and the map without the key if it has. -/
def read (m : ExpiringMap α) (now : Double) (key : String) : Option α × ExpiringMap α :=
  match m.entry? key with
  | none => (none, m)
  | some e => if Expired now e then (none, m.erase key) else (some e.value, m)

/-- The value of a key that has not expired. -/
def get? (m : ExpiringMap α) (now : Double) (key : String) : Option α :=
  (m.read now key).1

/-- The map without expired entries. -/
def evict (m : ExpiringMap α) (now : Double) : ExpiringMap α :=
  ⟨m.entries.filter (!Expired now ·.2)⟩

/-- Stores a value that counts for `ttl` from now on. -/
def set (m : ExpiringMap α) (now : Double) (key : String) (value : α) (ttl : Double) :
    ExpiringMap α :=
  ⟨(m.evict now).entries.put key ⟨value, now.add ttl⟩⟩

example : ((empty.set 0 "a" 1 10).get? 9 "a") = some 1 := by decide +kernel

example : ((empty.set 0 "a" 1 10).get? 10 "a") = none := by decide +kernel

end ExpiringMap

end AlertRelay
