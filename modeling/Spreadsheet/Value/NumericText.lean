import Spreadsheet.Decimal.Numeral
import Spreadsheet.Text.Blank
import Spreadsheet.Text.Split

/-!
# `Value/NumericText.lean` — texts that look like numbers

Wherever a number is called for, a text that looks like one will do: `" -$1,234.50 "`, `"12.5%"`.
In front there may be a sign, then a currency sign; behind, a percent sign. Commas may group the
digits before the point by threes. White space is allowed around the whole, before the percent sign
and around the currency sign, though not between a plus sign and a currency sign.
-/

set_option autoImplicit false

namespace Spreadsheet.NumericText

/-- The currency signs that may stand before a number. -/
def isCurrency (c : Char) : Bool := c == '$' || c == '€' || c == '£' || c == '¥'

/-- Splits off a sign: whether it negates, and what follows. -/
def splitSign : List Char → Bool × List Char
  | '-' :: rest => (true, Text.trimStart rest)
  | '+' :: rest => (false, rest)
  | s => (false, s)

/-- Drops a currency sign and the white space behind it. -/
def dropCurrency : List Char → List Char
  | c :: rest => Text.trimStart (if isCurrency c then rest else c :: rest)
  | [] => []

/-- Splits off a percent sign at the end: whether there is one, and what stands before it. -/
def splitPercent (s : List Char) : Bool × List Char :=
  if s.getLast? = some '%' then (true, Text.trimEnd s.dropLast) else (false, s)

/-- Whether a character ends the whole part of a numeral. -/
def endsWhole (c : Char) : Bool := c == '.' || c == 'e' || c == 'E'

/-- Whether commas, if there are any, group the digits of the whole part by threes. -/
def isGrouped (s : List Char) : Bool :=
  let (whole, rest) := s.span (!endsWhole ·)
  match Text.pieces ',' whole with
  | first :: second :: more =>
    !rest.contains ',' && first != [] && first.length ≤ 3
      && (second :: more).all fun group => group.length == 3 && group.all Char.isDigit
  | _ => !rest.contains ','

/-- The finite number that a numeral with commas spells. -/
def magnitude? (s : List Char) : Option Float :=
  match s with
  | c :: _ =>
    if (c.isDigit || c == '.') && isGrouped s then
      (Decimal.unsigned? (s.filter (· != ','))).filter Float.isFinite
    else none
  | [] => none

/-- The number that a text looks like. -/
def read? (s : List Char) : Option Float :=
  let (negative, s) := splitSign (Text.trim s)
  let (percent, s) := splitPercent (dropCurrency s)
  (magnitude? s).map fun x =>
    let x := if percent then x / 100.0 else x
    if negative then -x else x

end Spreadsheet.NumericText
