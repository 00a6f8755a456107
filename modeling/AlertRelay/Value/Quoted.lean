import AlertRelay.Text.Percent

/-!
Texts between quotation marks, as JSON writes and reads them.

Control characters, the quotation mark and the backslash are escaped, everything else
stands for itself.
-/

namespace AlertRelay.Json

open AlertRelay.Text

/-- Four lower-case digits in base sixteen. -/
def hexUnit (n : Nat) : List Char :=
  [Nat.digitChar (n / 4096 % 16), Nat.digitChar (n / 256 % 16), Nat.digitChar (n / 16 % 16),
    Nat.digitChar (n % 16)]

/-- A sixteen-bit unit as an escape. -/
def unitEscape (n : Nat) : List Char :=
  '\\' :: 'u' :: hexUnit n

/-- A character between quotation marks. -/
def quotedChar (c : Char) : List Char :=
  if c = '\x22' then ['\\', '\x22']
  else if c = '\\' then ['\\', '\\']
  else if c = '\n' then ['\\', 'n']
  else if c = '\r' then ['\\', 'r']
  else if c = '\t' then ['\\', 't']
  else if c = '\x08' then ['\\', 'b']
  else if c = '\x0c' then ['\\', 'f']
  else if c.toNat < 0x20 then unitEscape c.toNat
  else [c]

/-- A text between quotation marks. -/
def quoted (cs : List Char) : List Char :=
  '\x22' :: cs.flatMap quotedChar ++ ['\x22']

/-- The unit that four digits in base sixteen write. -/
def readUnit? (a b c d : Char) : Option Nat :=
  if [a, b, c, d].all isHexDigit then some (Numeral.natOf 16 [a, b, c, d]) else none

/-- The character that a simple escape stands for. -/
def simpleEscape? (c : Char) : Option Char :=
  if c = '\x22' ∨ c = '\\' ∨ c = '/' then some c
  else if c = 'n' then some '\n'
  else if c = 'r' then some '\r'
  else if c = 't' then some '\t'
  else if c = 'b' then some '\x08'
  else if c = 'f' then some '\x0c'
  else none

/-- A character from the two halves of a pair of units. -/
def pairChar (lead trail : Nat) : Char :=
  Char.ofNat (0x10000 + (lead - 0xD800) * 0x400 + (trail - 0xDC00))

/-- The characters up to the closing quotation mark, and the rest; `done` holds those that
are already read, last first.  Half of a pair without its other half is read as the
replacement character. -/
def readQuoted? (done : List Char) : List Char → Option (List Char × List Char)
  | [] => none
  | '\x22' :: rest => some (done.reverse, rest)
  | '\\' :: 'u' :: a :: b :: c :: d :: '\\' :: 'u' :: e :: f :: g :: h :: rest =>
    match readUnit? a b c d, readUnit? e f g h with
    | some lead, some trail =>
      if 0xD800 ≤ lead ∧ lead < 0xDC00 ∧ 0xDC00 ≤ trail ∧ trail < 0xE000 then
        readQuoted? (pairChar lead trail :: done) rest
      else if 0xD800 ≤ lead ∧ lead < 0xE000 then
        readQuoted? ('\uFFFD' :: done) ('\\' :: 'u' :: e :: f :: g :: h :: rest)
      else readQuoted? (Char.ofNat lead :: done) ('\\' :: 'u' :: e :: f :: g :: h :: rest)
    | _, _ => none
  | '\\' :: 'u' :: a :: b :: c :: d :: rest =>
    match readUnit? a b c d with
    | some n =>
      readQuoted? ((if 0xD800 ≤ n ∧ n < 0xE000 then '\uFFFD' else Char.ofNat n) :: done) rest
    | none => none
  | '\\' :: c :: rest =>
    match simpleEscape? c with
    | some d => readQuoted? (d :: done) rest
    | none => none
  | c :: rest => if c.toNat < 0x20 ∨ c = '\\' then none else readQuoted? (c :: done) rest

example : readQuoted? [] "\\ud83d\\ude00\\n\x22!".toList = some (['😀', '\n'], ['!']) := by
  decide +kernel

end AlertRelay.Json
