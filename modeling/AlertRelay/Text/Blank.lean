/-!
White space, and texts without the white space around them.
-/

namespace AlertRelay.Text

/-- White space: tabs, line ends, the separators of Unicode, and the byte order mark. -/
def isBlank (c : Char) : Bool :=
  let n := c.toNat
  (9 ≤ n && n ≤ 13) || n == 0x20 || n == 0xA0 || n == 0x1680 ||
    (0x2000 ≤ n && n ≤ 0x200A) || n == 0x2028 || n == 0x2029 || n == 0x202F ||
    n == 0x205F || n == 0x3000 || n == 0xFEFF

/-- The characters without those at both ends that satisfy `p`. -/
def trimBy (p : Char → Bool) (cs : List Char) : List Char :=
  ((cs.dropWhile p).reverse.dropWhile p).reverse

/-- The pieces of a text between occurrences of a character; a text without it is one
piece. -/
def splitAt (mark : Char) : List Char → List (List Char)
  | [] => [[]]
  | c :: rest =>
    if c = mark then [] :: splitAt mark rest
    else
      match splitAt mark rest with
      | [] => [[c]]
      | piece :: pieces => (c :: piece) :: pieces

/-- What is left after a given beginning, if the text has it. -/
def dropBeginning? : List Char → List Char → Option (List Char)
  | [], cs => some cs
  | _ :: _, [] => none
  | b :: bs, c :: cs => if b = c then dropBeginning? bs cs else none

/-- Whether a text contains another. -/
def contains (part : List Char) : List Char → Bool
  | [] => part.isEmpty
  | c :: cs => (dropBeginning? part (c :: cs)).isSome || contains part cs

theorem splitAt_ne_nil (mark : Char) (cs : List Char) : splitAt mark cs ≠ [] := by
  cases cs with
  | nil => simp [splitAt]
  | cons c rest =>
    unfold splitAt
    split
    · simp
    · split <;> simp

theorem dropBeginning?_eq_some_iff {b cs rest : List Char} :
    dropBeginning? b cs = some rest ↔ cs = b ++ rest := by
  induction b generalizing cs with
  | nil => simp [dropBeginning?, eq_comm]
  | cons x bs ih =>
    cases cs with
    | nil => simp [dropBeginning?]
    | cons c cs =>
      by_cases hx : x = c
      · simp [dropBeginning?, hx, ih]
      · simp [dropBeginning?, hx, Ne.symm hx]

example : splitAt '/' "a//b".toList = [['a'], [], ['b']] := by decide

end AlertRelay.Text
