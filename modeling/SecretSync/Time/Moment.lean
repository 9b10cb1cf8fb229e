import SecretSync.Text.Decimal

namespace SecretSync

/-- Seconds since the start of 1970. In a leap second the nanoseconds pass 10^9. -/
structure Moment where
  seconds : Int
  nanos : Nat
  deriving DecidableEq, Repr

namespace Moment

structure Date where
  year : Int
  month : Nat
  day : Nat
  deriving DecidableEq, Repr

/-- The date of a day counted from the start of 1970. Years are cut in March, so that a leap day
ends its year, and every 400 years have the same days. -/
def dateOfDay (day : Int) : Date :=
  let shifted := day + 719468
  let era := shifted.fdiv 146097
  let dayOfEra := (shifted.fmod 146097).toNat
  let yearOfEra := (dayOfEra - dayOfEra / 1460 + dayOfEra / 36524 - dayOfEra / 146096) / 365
  let dayOfYear := dayOfEra - (365 * yearOfEra + yearOfEra / 4 - yearOfEra / 100)
  let fifth := (5 * dayOfYear + 2) / 153
  let month := if fifth < 10 then fifth + 3 else fifth - 9
  let year : Int := yearOfEra + era * 400
  ⟨if month ≤ 2 then year + 1 else year, month, dayOfYear - (153 * fifth + 2) / 5 + 1⟩

def date (m : Moment) : Date := dateOfDay (m.seconds.fdiv 86400)

def secondOfDay (m : Moment) : Nat := (m.seconds.fmod 86400).toNat

/-- A moment with a date that can be written; a leap second only ends a minute. -/
def ofUnix? (seconds : Int) (nanos : Nat) : Option Moment :=
  let m : Moment := ⟨seconds, nanos⟩
  let year := m.date.year
  if -262143 ≤ year ∧ year ≤ 262142 ∧
      (nanos < 1000000000 ∨ nanos < 2000000000 ∧ m.secondOfDay % 60 = 59) then some m
  else none

/-- Four digits, and a sign for a year that has more or is negative. -/
def renderYear (year : Int) : String :=
  if year < 0 then "-" ++ Text.pad 4 year.natAbs
  else if year ≤ 9999 then Text.pad 4 year.natAbs
  else "+" ++ Text.pad 4 year.natAbs

/-- Date and time to the second. -/
def rfc3339 (m : Moment) : String :=
  let d := m.date
  let t := m.secondOfDay
  let second := if m.nanos < 1000000000 then t % 60 else t % 60 + 1
  renderYear d.year ++ "-" ++ Text.pad 2 d.month ++ "-" ++ Text.pad 2 d.day ++ "T" ++
    Text.pad 2 (t / 3600) ++ ":" ++ Text.pad 2 (t / 60 % 60) ++ ":" ++ Text.pad 2 second ++ "Z"

end Moment

end SecretSync
