import Spreadsheet.Function.Argument

/-!
# `Function/Date.lean` — serials, parts of dates and the time between them

A date argument is a serial or a text of year, month and day. Made from parts, a date takes months
and days outside their usual range and rolls them over into the next unit, or back into the one
before; years below 1900 count from 1900.
-/

set_option autoImplicit false

namespace Spreadsheet.DateFunction

open Argument

/-- The date that a value stands for. -/
def dateOf (v : Value) : Except ErrorCode Date :=
  let written? : Option Date :=
    match v with
    | .text s => Date.read? (Text.trim s.toList)
    | _ => none
  match written? with
  | some d => .ok d
  | none => do
    match Date.ofNumber? (← v.toNumber) with
    | some d => .ok d
    | none => .error .typeMismatch

def today (now : Moment) : Value := .number (Float.ofInt now.date.serial)

/-- The serial of the date, with the time of day as its fraction. -/
def thisMoment (now : Moment) : Value :=
  .number (Float.ofInt now.date.serial + Float.ofNat now.second / 86400.0)

/-- Months and days beyond this many are refused. -/
def maxPart : Float := 1e7

/-- A month or day as given. -/
def part (v : Value) : Except ErrorCode Int := do
  let x := Decimal.truncate (← v.toNumber)
  if maxPart < x.abs then .error .typeMismatch else return Decimal.toInt64 x

/-- The date with these parts, months and days rolled over. -/
def rolled? (year month day : Int) : Option Date :=
  let months := year * 12 + (month - 1)
  (Date.ofParts? (months / 12) ((months % 12).toNat + 1) 1).bind fun first =>
    Date.ofDayNumber? (first.dayNumber + (day - 1))

def date : List Value → Except ErrorCode Float
  | [year, month, day] => do
    let year := Decimal.toInt64 (Decimal.truncate (← year.toNumber))
    let month ← part month
    let day ← part day
    let year := if 0 ≤ year ∧ year < 1900 then year + 1900 else year
    if year < 1900 ∨ 9999 < year then .error .typeMismatch
    else
      match rolled? year month day with
      | some d => if d.serial < 0 then .error .typeMismatch else return Float.ofInt d.serial
      | none => .error .typeMismatch
  | _ => .error .typeMismatch

/-- A function that takes a part of a date. -/
def taking (part : Date → Int) : List Value → Except ErrorCode Float
  | [v] => do return Float.ofInt (part (← dateOf v))
  | _ => .error .typeMismatch

/-- The whole months from one date to a later one; a last month that is not complete does not
count. -/
def wholeMonths (first last : Date) : Int :=
  last.monthIndex - first.monthIndex - if last.day < first.day then 1 else 0

def difference : List Value → Except ErrorCode Float
  | [first, last, unit] => do
    let first ← dateOf first
    let last ← dateOf last
    let unit ← unit.toText
    if last.dayNumber < first.dayNumber then .error .typeMismatch
    else
      match Text.latinUpper (Text.trimmed unit) with
      | "D" => return Float.ofInt (last.dayNumber - first.dayNumber)
      | "M" => return Float.ofInt (wholeMonths first last)
      | "Y" => return Float.ofInt (wholeMonths first last / 12)
      | _ => .error .typeMismatch
  | _ => .error .typeMismatch

def functions : List Function :=
  [ ⟨"TODAY", .exactly 0, .scalar, .volatile, fun c _ => today c.now⟩,
    ⟨"NOW", .exactly 0, .scalar, .volatile, fun c _ => thisMoment c.now⟩,
    .ofArguments "DATE" (.exactly 3) .scalar (numberResult ∘ date),
    .ofArguments "YEAR" (.exactly 1) .scalar (numberResult ∘ taking Date.year),
    .ofArguments "MONTH" (.exactly 1) .scalar (numberResult ∘ taking fun d => d.month),
    .ofArguments "DAY" (.exactly 1) .scalar (numberResult ∘ taking fun d => d.day),
    .ofArguments "DATEDIF" (.exactly 3) .scalar (numberResult ∘ difference) ]

end Spreadsheet.DateFunction
