import SecretSync.Text.Blank
import SecretSync.Time.Moment

namespace SecretSync.Moment

/-- The day of a date, counted from the start of 1970. Any month and day are taken as they are. -/
def dayOfDate (d : Date) : Int :=
  let year := if d.month ≤ 2 then d.year - 1 else d.year
  let era := year.fdiv 400
  let yearOfEra := year.fmod 400
  let dayOfYear : Int := (153 * ((d.month + 9) % 12) + 2) / 5 + d.day - 1
  era * 146097 + yearOfEra * 365 + yearOfEra / 4 - yearOfEra / 100 + dayOfYear - 719468

/-- A date is on the calendar when it is the date of its day. -/
def Date.onCalendar (d : Date) : Bool := dateOfDay (dayOfDate d) = d

namespace Stamp

def skipBlanks (cs : List Char) : List Char := cs.dropWhile Text.isBlank

def digitsValue (cs : List Char) : Nat :=
  cs.foldl (fun n c => n * 10 + (Text.digit? c).getD 0) 0

def number? (digits : List Char) : Option Nat :=
  if digits.isEmpty then none else some (digitsValue digits)

/-- A number of one or two digits within bounds. -/
def part? (low high : Nat) (cs : List Char) : Option (Nat × List Char) := do
  let cs := skipBlanks cs
  let digits := (cs.take 2).takeWhile Char.isDigit
  let n ← number? digits
  if low ≤ n ∧ n ≤ high then some (n, cs.drop digits.length) else none

/-- A number of up to four digits, or of any length after a sign. -/
def year? (cs : List Char) : Option (Int × List Char) :=
  match skipBlanks cs with
  | '-' :: rest => do
    let n ← number? (rest.takeWhile Char.isDigit)
    some (-n, rest.dropWhile Char.isDigit)
  | '+' :: rest => do
    let n ← number? (rest.takeWhile Char.isDigit)
    some (n, rest.dropWhile Char.isDigit)
  | rest => do
    let digits := (rest.take 4).takeWhile Char.isDigit
    let n ← number? digits
    some (n, rest.drop digits.length)

def separator? (c : Char) (cs : List Char) : Option (List Char) :=
  match skipBlanks cs with
  | d :: rest => if d = c then some rest else none
  | [] => none

def date? (cs : List Char) : Option (Date × List Char) := do
  let (year, cs) ← year? cs
  let (month, cs) ← part? 1 12 (← separator? '-' cs)
  let (day, cs) ← part? 1 31 (← separator? '-' cs)
  let d : Date := ⟨year, month, day⟩
  if -262143 ≤ year ∧ year ≤ 262142 ∧ d.onCalendar = true then some (d, cs) else none

/-- Nanoseconds from the digits after a point. -/
def fraction? : List Char → Option (Nat × List Char)
  | '.' :: rest => do
    let digits := rest.takeWhile Char.isDigit
    let _ ← number? digits
    let nine := (digits ++ List.replicate 9 '0').take 9
    some (digitsValue nine, rest.dropWhile Char.isDigit)
  | cs => some (0, cs)

/-- The second of a day and the nanoseconds, which pass 10^9 in a leap second. -/
def time? (cs : List Char) : Option (Nat × Nat × List Char) := do
  let (hour, cs) ← part? 0 23 cs
  let (minute, cs) ← part? 0 59 (← separator? ':' cs)
  let (second, cs) ← part? 0 60 (← separator? ':' cs)
  let (nanos, cs) ← fraction? cs
  let start := hour * 3600 + minute * 60
  if second = 60 then some (start + 59, 1000000000 + nanos, cs) else some (start + second, nanos, cs)

/-- Two digits within a bound. -/
def pair? (high : Nat) : List Char → Option (Nat × List Char)
  | a :: b :: rest => do
    let n := (← Text.digit? a) * 10 + (← Text.digit? b)
    if n ≤ high then some (n, rest) else none
  | _ => none

/-- Hours and minutes in seconds, with colons or blanks between them. -/
def distance? (cs : List Char) : Option (Int × List Char) := do
  let (hours, cs) ← pair? 23 cs
  let (minutes, cs) ← pair? 59 (cs.dropWhile fun c => c = ':' || Text.isBlank c)
  some (hours * 3600 + minutes * 60, cs)

/-- How many seconds a time is ahead of the time of Greenwich. -/
def offset? (cs : List Char) : Option (Int × List Char) :=
  match cs with
  | '+' :: rest => distance? rest
  | '-' :: rest | '\u2212' :: rest => (distance? rest).map fun d => (-d.1, d.2)
  | c :: rest =>
    if (cs.take 3).map Char.toUpper = ['U', 'T', 'C'] then some (0, cs.drop 3)
    else if c = 'Z' ∨ c = 'z' then some (0, rest)
    else none
  | [] => none

end Stamp

open Stamp in
def parse? (s : String) : Option Moment := do
  let (d, cs) ← date? s.toList
  match cs with
  | c :: cs =>
    if c = 'T' ∨ c = 't' ∨ c = ' ' then
      let (second, nanos, cs) ← time? cs
      let (offset, cs) ← offset? (skipBlanks cs)
      if (skipBlanks cs).isEmpty then ofUnix? (dayOfDate d * 86400 + second - offset) nanos
      else none
    else none
  | [] => none

end SecretSync.Moment
