import AlertRelay.Text.CaseTable

/-!
Lower case in all scripts.

`lower` maps every character to its lower-case form.  Two letters need more than a
character table: the dotted capital `İ` becomes two characters, and a capital sigma at the
end of a word becomes the final form `ς`.
-/

namespace AlertRelay.Text

/-- Whether a code point lies in one of the ranges. -/
def inRanges (ranges : List (Nat × Nat)) (n : Nat) : Bool :=
  ranges.any fun r => r.1 ≤ n && n ≤ r.2

/-- Whether a character is a letter with a case. -/
def isCased (c : Char) : Bool :=
  inRanges casedRanges c.toNat

/-- Whether a character is looked through when the end of a word is sought. -/
def isCaseIgnorable (c : Char) : Bool :=
  inRanges ignorableRanges c.toNat

/-- The run that holds a code point. -/
def lowerRun? (n : Nat) : Option LowerRun :=
  lowerRuns.find? fun r => r.first ≤ n && n ≤ r.last && (n - r.first) % r.stride == 0

/-- The lower-case form of one character by itself. -/
def lowerChar (c : Char) : Char :=
  if c.toNat < 0x80 then c.toLower
  else
    match lowerRun? c.toNat with
    | some r => Char.ofNat (c.toNat + r.shift).toNat
    | none => c

/-- Whether, looking through ignorable characters, the next one is a cased letter. -/
def casedNext (cs : List Char) : Bool :=
  match cs.dropWhile isCaseIgnorable with
  | c :: _ => isCased c
  | [] => false

/-- Lower case of `rest`, where `before` holds the characters already passed, nearest
first. -/
def lowerFrom (before : List Char) : List Char → List Char
  | [] => []
  | c :: rest =>
    let mapped :=
      if c = 'İ' then ['i', '\u0307']
      else if c = 'Σ' then
        if casedNext before && !casedNext rest then ['ς'] else ['σ']
      else [lowerChar c]
    mapped ++ lowerFrom (c :: before) rest

/-- The lower-case form of a text. -/
def lower (s : String) : String :=
  String.ofList (lowerFrom [] s.toList)

example : lower "ΟΔΟΣ" = "οδος" := by decide +kernel

example : lower "General-Σ" = "general-σ" := by decide +kernel

end AlertRelay.Text
