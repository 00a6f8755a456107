import AlertRelay.Text.CodeTable
import AlertRelay.Text.Composition
import AlertRelay.Text.JoiningTable

/-!
Marks, and letters that join each other.
-/

namespace AlertRelay.Text

def markEntries : List CodeEntry := entriesOf markTable

/-- Whether a character is a mark. -/
def isMark (c : Char) : Bool :=
  isListed markEntries c

/-- Whether a mark takes the vowel from a letter, so that it can be bound to the next one. -/
def isVowelKiller (c : Char) : Bool :=
  combiningClass c == 9

def joinsBeforeEntries : List CodeEntry := entriesOf joinsBeforeTable

def joinsBothEntries : List CodeEntry := entriesOf joinsBothTable

/-- Whether a letter can join the letter before it. -/
def joinsBefore (c : Char) : Bool :=
  isListed joinsBeforeEntries c || isListed joinsBothEntries c

/-- Whether a letter can join the letter behind it.  One letter does only that. -/
def joinsBehind (c : Char) : Bool :=
  c.toNat == 0xA872 || isListed joinsBothEntries c

end AlertRelay.Text
