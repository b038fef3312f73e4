import Spreadsheet.Decimal.Numeral
import Spreadsheet.Text.Blank

/-!
# `Calendar.lean` — dates, day numbers and clock readings

Dates follow the Gregorian calendar, extended without end in both directions but confined to years
of six digits. A spreadsheet counts days: day zero is the thirtieth of December 1899, and a date
is the number of days since then, its *serial*.

Counting goes through the days before a year and the days before a month in it. The way back
guesses the year from the length of four hundred years, which is off by one at most, and then
picks the last month that does not start too late.

This stands in for a calendar library, and follows what is documented of it:

* Its calendar is the Gregorian one before its introduction, too, and its years go from −262143 to
  262142 (`Calendar.firstYear`, `Calendar.lastYear`).
* A year, a month and a day make a date just if there is such a day (`Date.ofParts?`).
* Differences of dates are counted in days, and a number of days added to a date gives a date, or
  none beyond the years that there are (`Date.dayNumber`, `Date.ofDayNumber?`).
* A text is read as year, month and day with hyphens between them: at most four digits make a year,
  unless it has a sign, at most two make a month or a day, and the text must end there
  (`Date.read?`).

How the library counts inside is not followed.
-/

set_option autoImplicit false

namespace Spreadsheet

namespace Calendar

/-- Whether a year has a leap day. -/
def isLeap (year : Int) : Bool := year % 4 == 0 && (year % 100 != 0 || year % 400 == 0)

/-- How many days a month has. -/
def daysInMonth (year : Int) : Nat → Nat
  | 2 => if isLeap year then 29 else 28
  | 4 | 6 | 9 | 11 => 30
  | _ => 31

/-- How many days of a year lie before a month of it. -/
def daysBeforeMonth (year : Int) : Nat → Nat
  | 0 | 1 => 0
  | month + 2 => daysBeforeMonth year (month + 1) + daysInMonth year (month + 1)

/-- How many days lie between the first of January of year one and that of a year. -/
def daysBeforeYear (year : Int) : Int :=
  let y := year - 1
  365 * y + y / 4 - y / 100 + y / 400

/-- The years that dates are confined to. -/
def firstYear : Int := -262143

def lastYear : Int := 262142

end Calendar

/-- A day of the calendar. -/
structure Date where
  year : Int
  month : Nat
  day : Nat
  deriving DecidableEq, Repr

namespace Date

/-- Whether there is such a day. -/
def isValid (d : Date) : Bool :=
  Calendar.firstYear ≤ d.year && d.year ≤ Calendar.lastYear && 1 ≤ d.month && d.month ≤ 12
    && 1 ≤ d.day && d.day ≤ Calendar.daysInMonth d.year d.month

/-- The date with these parts, if there is one. -/
def ofParts? (year : Int) (month day : Nat) : Option Date :=
  let d : Date := ⟨year, month, day⟩
  if d.isValid then some d else none

/-- How many days a date lies after the first of January of year one. -/
def dayNumber (d : Date) : Int :=
  Calendar.daysBeforeYear d.year + Calendar.daysBeforeMonth d.year d.month + (d.day - 1 : Int)

/-- The year that a day belongs to. -/
def yearOfDay (n : Int) : Int :=
  let guess := n * 400 / 146097 + 1
  if Calendar.daysBeforeYear (guess + 1) ≤ n then guess + 1
  else if Calendar.daysBeforeYear guess ≤ n then guess
  else guess - 1

/-- The month of a year that its `n`-th day belongs to, counting from zero. -/
def monthOfDay (year : Int) (n : Nat) : Nat :=
  ((List.range 12).filter fun m => Calendar.daysBeforeMonth year (m + 1) ≤ n).length

/-- The date of a day number, if it lies in the years that dates are confined to. -/
def ofDayNumber? (n : Int) : Option Date :=
  let year := yearOfDay n
  let day := (n - Calendar.daysBeforeYear year).toNat
  let month := monthOfDay year day
  ofParts? year month (day - Calendar.daysBeforeMonth year month + 1)

/-- Day zero of a spreadsheet. -/
def epoch : Date := ⟨1899, 12, 30⟩

/-- The number of days since day zero. -/
def serial (d : Date) : Int := d.dayNumber - epoch.dayNumber

/-- The date so many days after day zero. -/
def ofSerial? (n : Int) : Option Date := ofDayNumber? (n + epoch.dayNumber)

/-- Months counted without regard to years. -/
def monthIndex (d : Date) : Int := d.year * 12 + d.month

/-- The greatest serial that stands for a date wherever a number does. -/
def maxSerial : Int := 2958465

/-- The date that a number stands for: its whole part as a serial, from day zero on. -/
def ofNumber? (x : Float) : Option Date :=
  if x.isFinite && 0.0 ≤ x && x ≤ Float.ofInt maxSerial then
    ofSerial? (Decimal.toInt64 (Decimal.floor x))
  else none

/-! ## Reading -/

/-- Reads a run of at most `limit` digits, at least one. -/
def digits? (limit : Option Nat) (s : List Char) : Option (Nat × List Char) :=
  let run := s.takeWhile Char.isDigit
  let run := match limit with
    | some n => run.take n
    | none => run
  if run = [] then none else some (Decimal.ofDigits run, s.drop run.length)

/-- Reads a year: up to four digits, or any number of them behind a sign. -/
def year? (s : List Char) : Option (Int × List Char) :=
  match Text.trimStart s with
  | '-' :: rest => (digits? none rest).map fun (n, rest) => (-n, rest)
  | '+' :: rest => (digits? none rest).map fun (n, rest) => ((n : Int), rest)
  | s => (digits? (some 4) s).map fun (n, rest) => ((n : Int), rest)

/-- Reads a month or day behind a hyphen: one or two digits. -/
def part? : List Char → Option (Nat × List Char)
  | '-' :: rest => digits? (some 2) (Text.trimStart rest)
  | _ => none

/-- The date that a text of year, month and day spells, to its end. Each part may have white space
before it. -/
def read? (s : List Char) : Option Date := do
  let (year, rest) ← year? s
  let (month, rest) ← part? rest
  let (day, rest) ← part? rest
  if rest = [] then ofParts? year month day else none

end Date

/-- A reading of the clock, to the second. -/
structure Moment where
  date : Date
  /-- Seconds since midnight. -/
  second : Nat
  deriving DecidableEq, Repr

end Spreadsheet
