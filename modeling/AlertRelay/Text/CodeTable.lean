import AlertRelay.Number.Reading
import AlertRelay.Text.Blank

/-!
Tables of code points, written as texts.

A table is a list of texts, each of which holds entries with spaces between them.  An entry
names a code point in base sixteen, or two with a hyphen between them for all from the first to
the last.  What it says about them stands after an equals sign.
-/

namespace AlertRelay.Text

/-- An entry of a table: the code points from the first to the last, and what it says. -/
structure CodeEntry where
  first : Nat
  last : Nat
  note : List Char
deriving DecidableEq, Repr

/-- A code point in base sixteen. -/
def codePoint (cs : List Char) : Nat :=
  Numeral.natOf 16 cs

namespace CodeEntry

/-- Reads an entry. -/
def read (cs : List Char) : CodeEntry :=
  let note := (cs.dropWhile (· != '=')).drop 1
  match splitAt '-' (cs.takeWhile (· != '=')) with
  | [first, last] => ⟨codePoint first, codePoint last, note⟩
  | pieces => ⟨codePoint pieces.flatten, codePoint pieces.flatten, note⟩

/-- Whether an entry is about a character. -/
def holds (e : CodeEntry) (c : Char) : Bool :=
  e.first ≤ c.toNat && c.toNat ≤ e.last

end CodeEntry

/-- The entries of a table. -/
def entriesOf (table : List String) : List CodeEntry :=
  table.flatMap fun line =>
    ((splitAt ' ' line.toList).filter (!·.isEmpty)).map CodeEntry.read

/-- What a table says about a character, if it has an entry for it. -/
def saidOf? (entries : List CodeEntry) (c : Char) : Option (List Char) :=
  (entries.find? (·.holds c)).map CodeEntry.note

/-- Whether a table has an entry for a character. -/
def isListed (entries : List CodeEntry) (c : Char) : Bool :=
  entries.any (·.holds c)

example : (entriesOf ["41-5a=x e9"]).map (fun e => (e.first, e.last, String.ofList e.note)) =
    [(65, 90, "x"), (233, 233, "")] := by
  decide +kernel

end AlertRelay.Text
