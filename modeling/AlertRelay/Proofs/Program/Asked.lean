import AlertRelay.Proofs.Program.Execution

/-!
What programs are seen and heard to do.

Of all that a program asks for, its queries, its calls to Slack and its records of the log are told
apart here.  Whatever else it asks for is silent.
-/

namespace AlertRelay

/-- A query that was asked for, with its answer. -/
def Asked.query? : Asked → Option (Database.Query × Except Value (List Database.Row))
  | ⟨.query q, answer⟩ => some (q, answer)
  | _ => none

/-- A call to Slack that was asked for, with what came of it. -/
def Asked.post? : Asked → Option (SlackCall × SlackReply)
  | ⟨.slack call, reply⟩ => some (call, reply)
  | _ => none

/-- A record for the log: its level, its message and its context. -/
abbrev LogRecord := Log.Level × String × List Value

/-- A record that was written to the log. -/
def Asked.record? : Asked → Option LogRecord
  | ⟨.log level message context, _⟩ => some (level, message, context)
  | _ => none

/-- The queries among what was asked for. -/
def queries (asked : List Asked) : List (Database.Query × Except Value (List Database.Row)) :=
  asked.filterMap Asked.query?

/-- The calls to Slack among what was asked for. -/
def posts (asked : List Asked) : List (SlackCall × SlackReply) :=
  asked.filterMap Asked.post?

/-- The records with a message among what was asked for. -/
def recordsOf (message : String) (asked : List Asked) : List LogRecord :=
  (asked.filterMap Asked.record?).filter (·.2.1 == message)

section Lists

variable (message : String) (asked later : List Asked)

@[simp] theorem queries_append : queries (asked ++ later) = queries asked ++ queries later :=
  List.filterMap_append

@[simp] theorem posts_append : posts (asked ++ later) = posts asked ++ posts later :=
  List.filterMap_append

@[simp] theorem recordsOf_append :
    recordsOf message (asked ++ later) = recordsOf message asked ++ recordsOf message later := by
  rw [recordsOf, List.filterMap_append, List.filter_append]
  rfl

/-- Whether nothing but records with a message was asked for, of all that is told apart here. -/
structure OnlyRecords (message : String) (asked : List Asked) : Prop where
  queries_eq : queries asked = []
  posts_eq : posts asked = []
  recordsOf_eq : ∀ other, other ≠ message → recordsOf other asked = []

/-- Whether something is neither a query nor a call to Slack nor a record. -/
def Asked.IsSilent (a : Asked) : Prop :=
  a.query? = none ∧ a.post? = none ∧ a.record? = none

variable {message} {asked}

theorem recordsOf_of_silent (h : ∀ a ∈ asked, a.IsSilent) (message : String) :
    recordsOf message asked = [] := by
  rw [recordsOf, List.filterMap_eq_nil_iff.mpr fun a ha => (h a ha).2.2]
  rfl

theorem onlyRecords_of_silent (h : ∀ a ∈ asked, a.IsSilent) : OnlyRecords message asked where
  queries_eq := List.filterMap_eq_nil_iff.mpr fun a ha => (h a ha).1
  posts_eq := List.filterMap_eq_nil_iff.mpr fun a ha => (h a ha).2.1
  recordsOf_eq := fun other _ => recordsOf_of_silent h other

theorem onlyRecords_log (level : Log.Level) (message : String) (context : List Value) :
    OnlyRecords message [⟨.log level message context, ()⟩] where
  queries_eq := rfl
  posts_eq := rfl
  recordsOf_eq := fun other hother => by
    have hbeq : (message == other) = false := beq_eq_false_iff_ne.mpr hother.symm
    simp [recordsOf, Asked.record?, hbeq]

end Lists

theorem Asked.silent_of_mem_turns {n : Nat} {a : Asked}
    (h : a ∈ List.replicate n (⟨.giveWay, ()⟩ : Asked)) : a.IsSilent := by
  rw [List.eq_of_mem_replicate h]
  exact ⟨rfl, rfl, rfl⟩

/-- What programs may ask for that are neither seen nor heard. -/
def silence : Limits where
  asks e := ∀ answer, Asked.IsSilent ⟨e, answer⟩
  changes _ := True
  fails _ := True

end AlertRelay
