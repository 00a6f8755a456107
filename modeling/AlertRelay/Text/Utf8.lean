/-!
UTF-8 bytes and the characters they stand for.

`utf8Of` writes a character as bytes.  `decodeUtf8` reads any bytes: a sequence that is cut
short, too long or out of range gives `none` in its place, so that a reader may either
refuse the text (`strictUtf8?`) or put the replacement character there (`looseUtf8`).
-/

namespace AlertRelay.Text

/-- The bytes of a character. -/
def utf8Of (c : Char) : List Nat :=
  let n := c.toNat
  if n < 0x80 then [n]
  else if n < 0x800 then [0xC0 + n / 64, 0x80 + n % 64]
  else if n < 0x10000 then [0xE0 + n / 4096, 0x80 + n / 64 % 64, 0x80 + n % 64]
  else [0xF0 + n / 262144, 0x80 + n / 4096 % 64, 0x80 + n / 64 % 64, 0x80 + n % 64]

/-- A sequence under way: how many bytes are missing, the value so far, and the range that
the next byte must be in. -/
structure Utf8Pending where
  missing : Nat
  value : Nat
  low : Nat
  high : Nat

/-- What a first byte starts: a character by itself, a sequence, or nothing valid. -/
inductive Utf8Start where
  | single (c : Char)
  | sequence (p : Utf8Pending)
  | invalid

def Utf8Start.ofByte (b : Nat) : Utf8Start :=
  if b < 0x80 then .single (Char.ofNat b)
  else if b < 0xC2 then .invalid
  else if b < 0xE0 then .sequence ⟨1, b - 0xC0, 0x80, 0xBF⟩
  else if b < 0xF0 then
    .sequence ⟨2, b - 0xE0, if b = 0xE0 then 0xA0 else 0x80, if b = 0xED then 0x9F else 0xBF⟩
  else if b < 0xF5 then
    .sequence ⟨3, b - 0xF0, if b = 0xF0 then 0x90 else 0x80, if b = 0xF4 then 0x8F else 0xBF⟩
  else .invalid

/-- Characters of the bytes from here on, after a sequence under way. -/
def decodeUtf8From : Option Utf8Pending → List Nat → List (Option Char)
  | none, [] => []
  | some _, [] => [none]
  | pending, b :: rest =>
    let fresh (lead : List (Option Char)) : List (Option Char) :=
      match Utf8Start.ofByte b with
      | .single c => lead ++ some c :: decodeUtf8From none rest
      | .sequence p => lead ++ decodeUtf8From (some p) rest
      | .invalid => lead ++ none :: decodeUtf8From none rest
    match pending with
    | none => fresh []
    | some p =>
      if p.low ≤ b ∧ b ≤ p.high then
        let value := p.value * 64 + b % 64
        if p.missing = 1 then some (Char.ofNat value) :: decodeUtf8From none rest
        else decodeUtf8From (some ⟨p.missing - 1, value, 0x80, 0xBF⟩) rest
      else fresh [none]

/-- The characters of bytes, with `none` for each malformed sequence. -/
def decodeUtf8 (bytes : List Nat) : List (Option Char) :=
  decodeUtf8From none bytes

/-- The characters of bytes, with the replacement character for each malformed sequence. -/
def looseUtf8 (bytes : List Nat) : List Char :=
  (decodeUtf8 bytes).map (·.getD '\uFFFD')

/-- The characters of bytes, if every sequence is well formed. -/
def strictUtf8? (bytes : List Nat) : Option (List Char) :=
  (decodeUtf8 bytes).mapM id

example : looseUtf8 ("aé€😀".toList.flatMap utf8Of) = "aé€😀".toList := by decide +kernel

example : looseUtf8 [0xE2, 0x82, 0x41] = ['\uFFFD', 'A'] := by decide +kernel

end AlertRelay.Text
