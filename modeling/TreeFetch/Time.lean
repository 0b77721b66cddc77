/-!
# Times

A time is a number of nanoseconds since the beginning of 1970, negative before it. `Time.text` is
its date and time of day in the proleptic Gregorian calendar, and `Time.stamp` the same in one word.
-/

namespace TreeFetch

abbrev Time := Int

namespace Time

def ofMilliseconds (ms : Int) : Time := ms * 1000000

def milliseconds (t : Time) : Int := Int.fdiv t 1000000

/-- A day of the calendar. -/
structure Date where
  year : Int
  month : Nat
  day : Nat
deriving Repr, DecidableEq

/-- The date that is a number of days after the first day of 1970. Years are counted from March, so
that the leap day is the last day of a year, and 400 of them have 146097 days. -/
def Date.ofDays (days : Int) : Date :=
  let shifted := days + 719468
  let era := Int.fdiv shifted 146097
  let dayOfEra := (Int.fmod shifted 146097).toNat
  let yearOfEra := (dayOfEra - dayOfEra / 1460 + dayOfEra / 36524 - dayOfEra / 146096) / 365
  let dayOfYear := dayOfEra - (365 * yearOfEra + yearOfEra / 4 - yearOfEra / 100)
  let marchMonth := (5 * dayOfYear + 2) / 153
  let day := dayOfYear - (153 * marchMonth + 2) / 5 + 1
  let month := if marchMonth < 10 then marchMonth + 3 else marchMonth - 9
  let year := (yearOfEra : Int) + era * 400
  ⟨if month ≤ 2 then year + 1 else year, month, day⟩

/-- A number with at least the given number of digits. -/
def padded (width n : Nat) : String :=
  let digits := Nat.toDigits 10 n
  String.ofList (List.replicate (width - digits.length) '0' ++ digits)

/-- A year has at least four digits, and a sign unless it lies between 0 and 9999. -/
def yearText (year : Int) : String :=
  if year < 0 then "-" ++ padded 4 year.natAbs
  else if year > 9999 then "+" ++ padded 4 year.natAbs
  else padded 4 year.natAbs

def dayText (t : Time) : String :=
  let date := Date.ofDays (Int.fdiv t 86400000000000)
  s!"{yearText date.year}-{padded 2 date.month}-{padded 2 date.day}"

def clockText (t : Time) : String :=
  let second := (Int.fmod (Int.fdiv t 1000000000) 86400).toNat
  s!"{padded 2 (second / 3600)}:{padded 2 (second / 60 % 60)}:{padded 2 (second % 60)}"

/-- Date and time of day, as in `2025-04-01 18:00:00`. -/
def text (t : Time) : String := s!"{dayText t} {clockText t}"

/-- Date and time of day in one word, as in `2025-04-01T18:00:00Z`. -/
def stamp (t : Time) : String := s!"{dayText t}T{clockText t}Z"

end Time

end TreeFetch
