import AlertRelay.Number.Shortest

/-!
Instants and their calendar text.

An instant is a whole number of milliseconds since the start of 1970.  `Instant.text` writes
it in the extended calendar format, in Greenwich time.
-/

namespace AlertRelay.Instant

/-- A day of the civil calendar. -/
structure Day where
  year : Int
  month : Nat
  day : Nat
deriving DecidableEq, Repr

/-- The civil day that is `n` days after 1 January 1970.  Years are counted from March, so
that a leap day ends its year; 400 of them have 146097 days. -/
def dayOf (n : Int) : Day :=
  let shifted := n + 719468
  let era := Int.fdiv shifted 146097
  let dayOfEra := Int.fmod shifted 146097
  let yearOfEra := (dayOfEra - dayOfEra / 1460 + dayOfEra / 36524 - dayOfEra / 146096) / 365
  let dayOfYear := dayOfEra - (365 * yearOfEra + yearOfEra / 4 - yearOfEra / 100)
  let monthFromMarch := (5 * dayOfYear + 2) / 153
  let day := dayOfYear - (153 * monthFromMarch + 2) / 5 + 1
  let month := if monthFromMarch < 10 then monthFromMarch + 3 else monthFromMarch - 9
  let year := yearOfEra + era * 400 + (if month ≤ 2 then 1 else 0)
  ⟨year, month.toNat, day.toNat⟩

/-- A natural number with at least `width` digits. -/
def padded (width n : Nat) : String :=
  let digits := Double.digitsOf n
  String.ofList (List.replicate (width - digits.length) '0' ++ digits)

/-- A year: four digits from 0 to 9999, and a sign with six digits otherwise. -/
def yearText (year : Int) : String :=
  if 0 ≤ year ∧ year ≤ 9999 then padded 4 year.toNat
  else (if year < 0 then "-" else "+") ++ padded 6 year.natAbs

/-- The calendar text of an instant. -/
def text (ms : Int) : String :=
  let d := dayOf (Int.fdiv ms 86400000)
  let rest := (Int.fmod ms 86400000).toNat
  yearText d.year ++ "-" ++ padded 2 d.month ++ "-" ++ padded 2 d.day ++ "T" ++
    padded 2 (rest / 3600000) ++ ":" ++ padded 2 (rest / 60000 % 60) ++ ":" ++
    padded 2 (rest / 1000 % 60) ++ "." ++ padded 3 (rest % 1000) ++ "Z"

/-- The last millisecond, before and after 1970, that the calendar reaches. -/
def limit : Int := 8640000000000000

/-- The instant of a clock reading: its whole milliseconds, if the calendar reaches them. -/
def ofDouble? (x : Double) : Option Int :=
  match x.truncate.toInt? with
  | some ms => if -limit ≤ ms ∧ ms ≤ limit then some ms else none
  | none => none

example : text 1714521600000 = "2024-05-01T00:00:00.000Z" := by decide +kernel

example : text (-1) = "1969-12-31T23:59:59.999Z" := by decide +kernel

end AlertRelay.Instant
