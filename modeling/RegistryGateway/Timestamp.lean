import RegistryGateway.Text.Digits

/-! Points in time in UTC, to the microsecond. -/

namespace RegistryGateway

/-- A point in time in UTC. -/
structure Timestamp where
  year : Nat
  month : Nat
  day : Nat
  hour : Nat
  minute : Nat
  second : Nat
  microsecond : Nat
  deriving DecidableEq, Inhabited

namespace Timestamp

/-- The date and the time of day to the second. -/
def secondsChars (t : Timestamp) : List Char :=
  decimalPadded 4 t.year ++ '-' :: decimalPadded 2 t.month ++ '-' :: decimalPadded 2 t.day ++
    'T' :: decimalPadded 2 t.hour ++ ':' :: decimalPadded 2 t.minute ++
    ':' :: decimalPadded 2 t.second

/-- The text `YYYY-MM-DDTHH:MM:SS.mmmZ`, with the microseconds cut to milliseconds. -/
def iso (t : Timestamp) : String :=
  String.ofList (t.secondsChars ++ '.' :: decimalPadded 3 (t.microsecond / 1000) ++ ['Z'])

/-- Decimal digits as a number; `none` for an empty text and for other characters. -/
def number? (digits : List Char) : Option Nat :=
  if digits.isEmpty || !digits.all isDecimalDigit then none else some (decimalValue digits)

/-- The microseconds of a fraction of a second, cut after six digits. -/
def fraction? : List Char → Option Nat
  | [] => some 0
  | '.' :: digits => number? ((digits ++ List.replicate (6 - digits.length) '0').take 6)
  | _ => none

/-- Reads `YYYY-MM-DDTHH:MM:SS` with an optional fraction. -/
def ofText? (text : List Char) : Option Timestamp := do
  let part (start width : Nat) := number? ((text.drop start).take width)
  let year ← part 0 4
  let month ← part 5 2
  let day ← part 8 2
  let hour ← part 11 2
  let minute ← part 14 2
  let second ← part 17 2
  let microsecond ← fraction? (text.drop 19)
  some ⟨year, month, day, hour, minute, second, microsecond⟩

/-- The year, month and day of a number of days after 1 March of the year 0. -/
def dateOfDay (day : Nat) : Nat × Nat × Nat :=
  let era := day / 146097
  let dayOfEra := day % 146097
  let yearOfEra := (dayOfEra - dayOfEra / 1460 + dayOfEra / 36524 - dayOfEra / 146096) / 365
  let dayOfYear := dayOfEra - (365 * yearOfEra + yearOfEra / 4 - yearOfEra / 100)
  let marchMonth := (5 * dayOfYear + 2) / 153
  let month := if marchMonth < 10 then marchMonth + 3 else marchMonth - 9
  let year := yearOfEra + era * 400 + (if month ≤ 2 then 1 else 0)
  (year, month, dayOfYear - (153 * marchMonth + 2) / 5 + 1)

/-- The days from 1 March of the year 0 to the epoch. -/
def epochDay : Nat := 719468

/-- The point in time a number of seconds after the start of 1970. -/
def ofEpoch (seconds : Int) : Timestamp :=
  let day := (Int.fdiv seconds 86400 + epochDay).toNat
  let ofDay := (Int.fmod seconds 86400).toNat
  let (year, month, date) := dateOfDay day
  ⟨year, month, date, ofDay / 3600, ofDay / 60 % 60, ofDay % 60, 0⟩

end Timestamp

end RegistryGateway
