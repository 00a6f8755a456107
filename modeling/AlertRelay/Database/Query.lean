import AlertRelay.Value.Basic

/-!
Statements for the database, with the values of their parameters.
-/

namespace AlertRelay.Database

/-- A statement and its parameters; `none` for a statement that has none. -/
structure Query where
  text : String
  params : Option (List Value)

/-- A row of an answer: the values of its columns, whatever they are. -/
abbrev Row := Value

/-- A statement without parameters. -/
def Query.plain (text : String) : Query := ⟨text, none⟩

end AlertRelay.Database
