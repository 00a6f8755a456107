import AlertRelay.Text.Direction
import AlertRelay.Text.Joining
import AlertRelay.Web.DomainTable
import AlertRelay.Web.Punycode

/-!
Domain names in all scripts.

A name is first brought into its common form: characters that mean the same become one, and
letters and marks are put together.  Then each label between the points has to be one that can
be told from others: marks and joining signs stand only behind what they belong to, and
directions do not mix.  A label that begins with `xn--` encodes another one, which must be in
its common form already.
-/

namespace AlertRelay.Web

open AlertRelay.Text

/-- Whether a character belongs to ASCII. -/
def isAscii (c : Char) : Bool :=
  c.toNat < 0x80

def droppedEntries : List CodeEntry := entriesOf droppedTable

def refusedEntries : List CodeEntry := entriesOf refusedTable

def shiftedEntries : List CodeEntry := entriesOf shiftedTable

def alternatingEntries : List CodeEntry := entriesOf alternatingTable

def listedEntries : List CodeEntry := entriesOf listedTable

/-- The character that is as far behind that of an entry as another is behind its first. -/
def shifted (e : CodeEntry) (c : Char) : List Char :=
  [Char.ofNat (codePoint e.note + (c.toNat - e.first))]

/-- The one of an entry's list at the place of a character. -/
def chosen (e : CodeEntry) (c : Char) : List Char :=
  (splitAt '+' ((splitAt ',' e.note)[c.toNat - e.first]?.getD [])).map fun part =>
    Char.ofNat (codePoint part)

/-- The characters that a character stands for in a name; `none` if it is refused. -/
def standsFor? (c : Char) : Option (List Char) :=
  if isListed refusedEntries c then none
  else if isListed droppedEntries c then some []
  else
    match shiftedEntries.find? (·.holds c), listedEntries.find? (·.holds c),
        alternatingEntries.find? fun e => e.holds c && (c.toNat - e.first) % 2 == 0 with
    | some e, _, _ => some (shifted e c)
    | none, some e, _ => some (chosen e c)
    | none, none, some e => some (shifted e c)
    | none, none, none => some [c]

/-- A text with all its characters replaced by those that they stand for. -/
def replaced? (cs : List Char) : Option (List Char) :=
  (cs.mapM standsFor?).map List.flatten

/-- The common form of a name, if none of its characters is refused. -/
def commonForm? (cs : List Char) : Option (List Char) :=
  if cs.all isAscii then some (cs.map Char.toLower) else (replaced? cs).map composed

/-- Signs that forbid, or ask, that the letters on both sides join. -/
def nonJoiner : Char := '\u200C'
def joiner : Char := '\u200D'

/-- Whether the first joining sign of a label stands where it may: behind a mark that takes the
vowel, or, for the one that forbids, anywhere between letters that could join.  `before` holds
the characters already passed, the nearest first.  Without such a sign there is nothing to
tell. -/
def joinerFits? (before : List Char) : List Char → Option Bool
  | [] => none
  | c :: rest =>
    let bound := before.head?.any isVowelKiller
    if c = nonJoiner then some (bound || (before.any joinsBehind && rest.any joinsBefore))
    else if c = joiner then some bound
    else joinerFits? (c :: before) rest

/-- Whether the directions of a label's characters may stand together.  In a label in which
something runs to the left the first letter decides which others may be there, and it has to end
in a letter or a digit, marks aside. -/
def directionsFit (ds : List Direction) : Bool :=
  let unmarked := (ds.reverse.dropWhile (· == .mark)).reverse
  let allAre (kinds : List Direction) : Bool := unmarked.all kinds.contains
  let endsIn (kinds : List Direction) : Bool := unmarked.getLast?.any kinds.contains
  if unmarked.isEmpty then false
  else if !(ds.contains .leftward || ds.contains .leftwardDigit) then true
  else if ds.head? = some .rightward then
    allAre [.rightward, .digit, .neutral, .mark] && endsIn [.rightward, .digit]
  else
    allAre [.leftward, .leftwardDigit, .digit, .neutral, .mark] &&
      endsIn [.leftward, .leftwardDigit, .digit] &&
      !(unmarked.contains .digit && unmarked.contains .leftwardDigit)

/-- Whether a label can be told from others.  Where there is a joining sign its place decides,
else the directions do. -/
def isDistinct (label : List Char) : Bool :=
  !label.head?.any isMark &&
    (joinerFits? [] label).getD (directionsFit (label.map Direction.ofChar))

/-- What an encoded label begins with. -/
def encodedMark : List Char := "xn--".toList

/-- Whether a text encodes a label: one that is not empty, in its common form, and can be told
from others.  What is encoded does not itself begin like an encoded label. -/
def encodesLabel (cs : List Char) : Bool :=
  (dropBeginning? encodedMark cs).isNone && cs.all isAscii &&
    match Punycode.decode? cs with
    | none => false
    | some label =>
      !label.isEmpty && replaced? label == some label && composed label == label &&
        isDistinct label

/-- Whether a label of a name in common form is valid. -/
def isLabel (cs : List Char) : Bool :=
  match dropBeginning? encodedMark cs with
  | some rest => encodesLabel rest
  | none => cs.all isAscii || isDistinct cs

end AlertRelay.Web
