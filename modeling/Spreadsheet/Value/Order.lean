import Spreadsheet.Value.Coercion

/-!
# `Value/Order.lean` — one order for all values

Comparison operators, lookups and sorted searches share one order: numbers come before texts and
texts before truth values. Numbers compare as numbers, texts without regard to case, and false
comes before true. An empty cell takes the part that suits its opponent: zero against a number,
the empty text against a text, false against a truth value. Errors and blocks come last.
-/

set_option autoImplicit false

namespace Spreadsheet

/-- The order of numbers; not-a-number is level with everything. -/
def compareNumbers (x y : Float) : Ordering := if x < y then .lt else if y < x then .gt else .eq

/-- The order of texts without regard to case. -/
def compareTexts (x y : String) : Ordering := compare (Text.lowered x) (Text.lowered y)

/-- The order of truth values. -/
def compareBools : Bool → Bool → Ordering
  | false, true => .lt
  | true, false => .gt
  | _, _ => .eq

/-- The order of scalars. -/
def Scalar.compare : Scalar → Scalar → Ordering
  | .number x, .number y => compareNumbers x y
  | .number x, .blank => compareNumbers x 0.0
  | .number _, _ => .lt
  | .text x, .text y => compareTexts x y
  | .text x, .blank => compareTexts x ""
  | .text _, .number _ => .gt
  | .text _, .bool _ => .lt
  | .bool x, .bool y => compareBools x y
  | .bool x, .blank => compareBools x false
  | .bool _, _ => .gt
  | .blank, .number y => compareNumbers 0.0 y
  | .blank, .text y => compareTexts "" y
  | .blank, .bool y => compareBools false y
  | .blank, .blank => .eq

namespace Value

/-- The order of values. -/
def compare : Value → Value → Ordering
  | .scalar x, .scalar y => x.compare y
  | .scalar _, _ => .lt
  | _, .scalar _ => .gt
  | x, y => compareNumbers (x.toNumber.toOption.getD 0.0) (y.toNumber.toOption.getD 0.0)

/-- Whether two values are level in the order. -/
def isLevel (x y : Value) : Bool := x.compare y == .eq

end Value

end Spreadsheet
