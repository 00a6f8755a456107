import AlertRelay.Text.CodeTable
import AlertRelay.Text.DirectionTable

/-!
The direction in which characters are written.
-/

namespace AlertRelay.Text

/-- What a character does to the direction of a text: letters run to the right or to the left,
some digits belong to letters that run to the left, and marks go with the character before
them. -/
inductive Direction where
  | rightward
  | leftward
  | leftwardDigit
  | digit
  | neutral
  | mark
  | control
deriving DecidableEq, Repr

namespace Direction

/-- The direction that a table names. -/
def ofName : List Char → Direction
  | ['r'] => .leftward
  | ['a'] => .leftwardDigit
  | ['d'] => .digit
  | ['n'] => .neutral
  | ['m'] => .mark
  | ['o'] => .control
  | _ => .rightward

def entries : List CodeEntry := entriesOf directionTable

/-- The direction of a character. -/
def ofChar (c : Char) : Direction :=
  (saidOf? entries c).elim .rightward ofName

end Direction

end AlertRelay.Text
