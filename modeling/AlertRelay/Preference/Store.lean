import AlertRelay.Database.Access
import AlertRelay.Preference.Statement

/-!
Where preferences are kept: in the server's memory, or in the database.

Both take the writes of a change together, and keep all of them or none.
-/

namespace AlertRelay.Preference

variable {α : Type}

/-- Where preferences are kept. -/
inductive Store where
  | memory
  | database
deriving DecidableEq, Repr

namespace Store

/-- Makes writes in memory, and then goes on to an end that may be a failure, which undoes
them. -/
def transactInMemory (writes : List Write) (ending : Except Failure α) : Program α := do
  let outcome ← Program.update fun m =>
    match m.preferences.transact writes, ending with
    | (.ok (), after), .ok a => (.ok a, { m with preferences := after })
    | (.ok (), after), .error f =>
      (.error f, { m with preferences :=
        { m.preferences with transactions := after.transactions } })
    | (.error name, after), _ => (.error (.writeRefused name), { m with preferences := after })
  Program.ofExcept outcome

/-- Carries out statements one after the other on the connection of a transaction. -/
def runStatements : List Statement → Program Unit
  | [] => return ()
  | s :: rest => do
    discard <| Database.clientQuery s.query
    runStatements rest

/-- Makes all writes in one transaction, or none if one of them or the end fails. -/
def transact (store : Store) (config : Config) (writes : List Write)
    (ending : Except Failure α) : Program α :=
  match store with
  | .memory => transactInMemory writes ending
  | .database =>
    Database.transaction config do
      runStatements (writes.flatMap Write.statements)
      Program.ofExcept ending

/-- The choice that is stored for a key. -/
def choice? (store : Store) (config : Config) (key : Key) : Program (Option Choice) := do
  match store with
  | .memory => return (← Program.memory).preferences.choice? key
  | .database =>
    return Statement.choiceOf? (← Database.query config (Statement.selectSetting key).query)

/-- The values of an option that rows hold, by user. -/
def optionValuesOf (rows : List Database.Row) : OptionValues :=
  rows.foldl
    (fun found row =>
      match Statement.optionValueOf? (row.get "value") with
      | some v => found.put (row.get "user_id") v
      | none => found)
    []

/-- The values that users have for an option of a project, by user.  Without users there is
nothing to look for. -/
def optionValues (store : Store) (config : Config) (users : List String)
    (project key : String) : Program OptionValues := do
  match store with
  | .memory =>
    return .ofNames ((← Program.memory).preferences.optionValues users project key)
  | .database =>
    if users.isEmpty then return []
    else
      return optionValuesOf
        (← Database.query config (Statement.selectOptions users project key).query)

end Store

end AlertRelay.Preference
