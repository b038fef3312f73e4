import Spreadsheet.Decimal.Shortest

/-!
# `Decimal/Numeral.lean` — reading numerals

A numeral is a run of digits with at most one point in it and at least one digit, and an optional
exponent with at least one digit of its own. Its value is the number nearest to what it says. A
signed numeral may have a sign in front, and the names of the infinities and of not-a-number count
as readings too; whoever needs a finite number checks for one.
-/

set_option autoImplicit false

namespace Spreadsheet.Decimal

/-- What a run of digits says, most significant digit first. -/
def ofDigits (digits : List Char) : Nat :=
  digits.foldl (fun n c => 10 * n + (c.toNat - '0'.toNat)) 0

/-- The number nearest to a magnitude. Magnitudes far outside the range of numbers are settled by
their count of digits alone, so a long exponent costs nothing. -/
def Scaled.toFloat (s : Scaled) : Float :=
  let scale := s.exponent + digitCount s.digits
  if s.digits = 0 ∨ scale < -330 then 0.0
  else if 310 < scale then 1.0 / 0.0
  else Float.ofScientific s.digits (decide (s.exponent < 0)) s.exponent.natAbs

/-- Splits off the digits that a text starts with. -/
def spanDigits (s : List Char) : List Char × List Char := s.span Char.isDigit

/-- The exponent that a text spells, to its end; a text that is not there spells zero. -/
def exponent? : List Char → Option Int
  | [] => some 0
  | e :: rest =>
    if e = 'e' ∨ e = 'E' then
      let (negative, digits) := match rest with
        | '-' :: digits => (true, digits)
        | '+' :: digits => (false, digits)
        | digits => (false, digits)
      if digits ≠ [] ∧ digits.all Char.isDigit then
        some (if negative then -(ofDigits digits : Int) else ofDigits digits)
      else none
    else none

/-- The magnitude that an unsigned numeral spells. -/
def numeral? (s : List Char) : Option Scaled :=
  let (whole, afterWhole) := spanDigits s
  let (fraction, afterFraction) := match afterWhole with
    | '.' :: rest => spanDigits rest
    | rest => ([], rest)
  if whole = [] ∧ fraction = [] then none
  else (exponent? afterFraction).map fun e => ⟨ofDigits (whole ++ fraction), e - fraction.length⟩

/-- The number that an unsigned numeral or a name of a number outside the finite ones spells. -/
def unsigned? (s : List Char) : Option Float :=
  match numeral? s with
  | some magnitude => some magnitude.toFloat
  | none =>
    let name := s.map Char.toLower
    if name = "inf".toList ∨ name = "infinity".toList then some (1.0 / 0.0)
    else if name = "nan".toList then some (0.0 / 0.0)
    else none

/-- The number that a text spells, to its end and without white space. -/
def number? : List Char → Option Float
  | '-' :: rest => (unsigned? rest).map Float.neg
  | '+' :: rest => unsigned? rest
  | s => unsigned? s

end Spreadsheet.Decimal
