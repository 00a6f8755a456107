import AlertRelay.Instant
import AlertRelay.Value.KeyOrder
import AlertRelay.Value.Quoted

/-!
JSON text of values, and values of JSON text.

`Value.json` leaves out fields that are undefined and writes a missing item, a number that is
not finite and an instant outside the calendar as `null`.  `Value.ofJson?` reads a text that
is exactly one JSON value; of two fields with one name the later value counts, in the place
of the first.
-/

namespace AlertRelay

namespace Value

/-- Texts with commas between them. -/
def withCommas : List (List Char) → List Char
  | [] => []
  | [last] => last
  | first :: rest => first ++ ',' :: withCommas rest

mutual

/-- The JSON text of a value. -/
def jsonChars : Value → List Char
  | .undefined => "null".toList
  | .null => "null".toList
  | .bool b => (if b then "true" else "false").toList
  | .number n => (if n.isFinite then n.text else "null").toList
  | .bigint n => (toString n).toList
  | .text s => Json.quoted s.toList
  | .date (some ms) => Json.quoted (Instant.text ms).toList
  | .date none => "null".toList
  | .list _ items => '[' :: withCommas (jsonItems items) ++ [']']
  | .record _ fields =>
    '\x7b' :: withCommas ((listedFields (jsonFields fields)).map (·.2)) ++ ['\x7d']
  | .error _ kind fields =>
    '\x7b' :: withCommas ((listedFields (jsonErrorFields kind fields)).map (·.2)) ++ ['\x7d']
  | .again _ => "null".toList

def jsonItems : List Value → List (List Char)
  | [] => []
  | v :: rest => jsonChars v :: jsonItems rest

/-- The fields that are written, each with its name and its whole text. -/
def jsonFields : List (String × Value) → List (String × List Char)
  | [] => []
  | (k, v) :: rest =>
    if v.isUndefined then jsonFields rest
    else (k, Json.quoted k.toList ++ ':' :: jsonChars v) :: jsonFields rest

/-- The fields of an error that are written. -/
def jsonErrorFields (kind : ErrorClass) : List (String × Value) → List (String × List Char)
  | [] => []
  | (k, v) :: rest =>
    if v.isUndefined || !kind.lists k then jsonErrorFields kind rest
    else (k, Json.quoted k.toList ++ ':' :: jsonChars v) :: jsonErrorFields kind rest

end

/-- The JSON text of a value. -/
def json (v : Value) : String :=
  String.ofList v.jsonChars

end Value

namespace Json

/-- White space between the parts of a JSON text. -/
def isSpace (c : Char) : Bool :=
  c == ' ' || c == '\t' || c == '\n' || c == '\r'

/-- The text from its first character that is not white space. -/
def skipSpace (cs : List Char) : List Char :=
  cs.dropWhile isSpace

/-- A number at the front: a sign, digits without needless zeros, a fraction, an exponent. -/
def readNumber? (cs : List Char) : Option (Double × List Char) :=
  let (negative, body) :=
    match cs with
    | '-' :: rest => (true, rest)
    | _ => (false, cs)
  let (whole, rest) := Numeral.takeDigits body
  if whole.isEmpty || (1 < whole.length && whole.head? == some '0') then none
  else
    let fraction? : Option (List Char × List Char) :=
      match rest with
      | '.' :: after =>
        let (digits, rest) := Numeral.takeDigits after
        if digits.isEmpty then none else some (digits, rest)
      | _ => some ([], rest)
    match fraction? with
    | none => none
    | some (fraction, rest) =>
      let exponent? : Option (Int × List Char) :=
        match rest with
        | 'e' :: _ => Numeral.takeExponent? rest
        | 'E' :: _ => Numeral.takeExponent? rest
        | _ => some (0, rest)
      exponent?.map fun (exponent, rest) =>
        let size := Numeral.value ⟨whole, fraction, exponent⟩
        (if negative then size.neg else size, rest)

/-- One of the three literal names. -/
def readName? (cs : List Char) : Option (Value × List Char) :=
  match cs with
  | 'n' :: 'u' :: 'l' :: 'l' :: rest => some (.null, rest)
  | 't' :: 'r' :: 'u' :: 'e' :: rest => some (.bool true, rest)
  | 'f' :: 'a' :: 'l' :: 's' :: 'e' :: rest => some (.bool false, rest)
  | _ => none

mutual

/-- A value at the front, and the rest.  Every bracket uses up one unit of `depth`. -/
def readValue? : Nat → List Char → Option (Value × List Char)
  | 0, _ => none
  | depth + 1, cs =>
    match skipSpace cs with
    | '\x22' :: rest => (readQuoted? [] rest).map fun (s, rest) => (.text (String.ofList s), rest)
    | '[' :: rest =>
      match skipSpace rest with
      | ']' :: after => some (.list none [], after)
      | after => (readItems? depth [] after).map fun (xs, rest) => (.list none xs, rest)
    | '\x7b' :: rest =>
      match skipSpace rest with
      | '\x7d' :: after => some (.record none [], after)
      | after =>
        (readFields? depth [] after).map fun (fs, rest) => (.record none (listedFields fs), rest)
    | c :: rest =>
      if c = '-' ∨ Numeral.isDigit c then
        (readNumber? (c :: rest)).map fun (n, rest) => (.number n, rest)
      else readName? (c :: rest)
    | [] => none

/-- The items up to the closing bracket; `done` holds those already read, last first. -/
def readItems? : Nat → List Value → List Char → Option (List Value × List Char)
  | 0, _, _ => none
  | fuel + 1, done, cs =>
    match readValue? fuel cs with
    | none => none
    | some (v, rest) =>
      match skipSpace rest with
      | ',' :: after => readItems? fuel (v :: done) after
      | ']' :: after => some ((v :: done).reverse, after)
      | _ => none

/-- The fields up to the closing brace; `done` holds those already read. -/
def readFields? :
    Nat → List (String × Value) → List Char → Option (List (String × Value) × List Char)
  | 0, _, _ => none
  | fuel + 1, done, cs =>
    match skipSpace cs with
    | '\x22' :: quotedKey =>
      match readQuoted? [] quotedKey with
      | none => none
      | some (key, afterKey) =>
        match skipSpace afterKey with
        | ':' :: afterColon =>
          match readValue? fuel afterColon with
          | none => none
          | some (v, rest) =>
            let done := Assoc.put (String.ofList key) v done
            match skipSpace rest with
            | ',' :: after => readFields? fuel done after
            | '\x7d' :: after => some (done, after)
            | _ => none
        | _ => none
    | _ => none

end

end Json

/-- The value that a JSON text writes. -/
def Value.ofJsonChars? (cs : List Char) : Option Value :=
  match Json.readValue? (cs.length + 1) cs with
  | some (v, rest) => if (Json.skipSpace rest).isEmpty then some v else none
  | none => none

/-- The value that a JSON text writes. -/
def Value.ofJson? (s : String) : Option Value :=
  Value.ofJsonChars? s.toList

example :
    (Value.ofJson? "\x7b\"b\":[1,2.50,null],\"1\":\"x\\n\"\x7d").map Value.json =
      some "\x7b\"1\":\"x\\n\",\"b\":[1,2.5,null]\x7d" := by
  decide +kernel

end AlertRelay
