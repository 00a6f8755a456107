import AlertRelay.Text.CodeTable
import AlertRelay.Text.CompositionTable

/-!
Texts in composed form.

One text can be written with marks of their own or with letters that have the marks already.
`composed` gives the form in which letters and marks are put together as far as possible, after
marks that do not interact have been brought into a fixed order.
-/

namespace AlertRelay.Text

def combiningEntries : List CodeEntry := entriesOf combiningClassTable

/-- The combining class of a character.  Only marks have one other than zero. -/
def combiningClass (c : Char) : Nat :=
  if c.toNat < 0x300 then 0 else (saidOf? combiningEntries c).elim 0 codePoint

/-- A character and the two that it consists of. -/
structure Composite where
  whole : Char
  first : Char
  second : Char
deriving DecidableEq, Repr

/-- The composite that an entry tells of. -/
def Composite.ofEntry (e : CodeEntry) : Composite :=
  let parts := (splitAt '+' e.note).map fun part => Char.ofNat (codePoint part)
  ⟨Char.ofNat e.first, parts.headD '\x00', (parts.drop 1).headD '\x00'⟩

/-- The composed characters, apart from Korean syllables. -/
def composites : List Composite := (entriesOf compositeTable).map Composite.ofEntry

namespace Syllable

/-- Where Korean syllables and the letters that they consist of begin, and how many middle and
last letters there are; one last letter stands for none. -/
def base : Nat := 0xAC00
def leadBase : Nat := 0x1100
def middleBase : Nat := 0x1161
def lastBase : Nat := 0x11A7
def leads : Nat := 19
def middles : Nat := 21
def lasts : Nat := 28

/-- The letters of a syllable. -/
def letters? (c : Char) : Option (List Char) :=
  let n := c.toNat - base
  if base ≤ c.toNat && n < leads * middles * lasts then
    let start := [Char.ofNat (leadBase + n / (middles * lasts)),
      Char.ofNat (middleBase + n / lasts % middles)]
    some (if n % lasts = 0 then start else start ++ [Char.ofNat (lastBase + n % lasts)])
  else none

/-- The syllable of a first and a middle letter, or of a syllable without a last letter and one
more letter. -/
def join? (a b : Char) : Option Char :=
  let lead := a.toNat - leadBase
  let middle := b.toNat - middleBase
  let whole := a.toNat - base
  let last := b.toNat - lastBase
  if leadBase ≤ a.toNat && lead < leads && middleBase ≤ b.toNat && middle < middles then
    some (Char.ofNat (base + (lead * middles + middle) * lasts))
  else if base ≤ a.toNat && whole < leads * middles * lasts && whole % lasts == 0 &&
      lastBase < b.toNat && last < lasts then
    some (Char.ofNat (a.toNat + last))
  else none

end Syllable

/-- The parts of a character, each of which may have parts again, at most so often. -/
def partsUpTo : Nat → Char → List Char
  | 0, c => [c]
  | depth + 1, c =>
    match Syllable.letters? c with
    | some letters => letters
    | none =>
      match composites.find? (·.whole == c) with
      | some p => partsUpTo depth p.first ++ [p.second]
      | none => [c]

/-- How often a character can be taken apart. -/
def maxParts : Nat := 4

/-- A text with all characters taken apart. -/
def takenApart (cs : List Char) : List Char :=
  cs.flatMap fun c => if c.toNat < 0xC0 then [c] else partsUpTo maxParts c

/-- Puts a mark among the marks that begin a text: behind those of a lower class. -/
def insertMark (c : Char) : List Char → List Char
  | [] => [c]
  | d :: rest =>
    if combiningClass d != 0 && combiningClass d < combiningClass c then d :: insertMark c rest
    else c :: d :: rest

/-- A text with the marks of each letter in the order of their classes. -/
def ordered (cs : List Char) : List Char :=
  cs.foldr insertMark []

/-- The character that two others make up. -/
def joined? (a b : Char) : Option Char :=
  (Syllable.join? a b).or
    ((composites.find? fun p => p.first == a && p.second == b).map Composite.whole)

/-- Puts characters together.  `start` is the last character of class zero so far, if any, and
`marks` are the marks after it that could not be put to it, the last one first: they are in the
way of a mark of their own class, and of every letter. -/
def putTogether (start : Option Char) (marks : List Char) : List Char → List Char
  | [] => start.toList ++ marks.reverse
  | c :: rest =>
    let free := marks.head?.all fun m => combiningClass m < combiningClass c
    match if free then start.bind (joined? · c) else none with
    | some whole => putTogether (some whole) marks rest
    | none =>
      if combiningClass c = 0 then
        start.toList ++ marks.reverse ++ putTogether (some c) [] rest
      else putTogether start (c :: marks) rest

/-- A text in composed form. -/
def composed (cs : List Char) : List Char :=
  if cs.all fun c => c.toNat < 0x300 then cs else putTogether none [] (ordered (takenApart cs))

end AlertRelay.Text
