/-!
# `Formula/Operator.lean` — operators and how tightly they bind

Binary operators fall into five levels, comparison the loosest and the power the tightest. All of
them group to the left, the power included. A sign in front of an operand binds tighter than any
of them, so `-2^2` is the square of minus two.
-/

set_option autoImplicit false

namespace Spreadsheet

/-- A binary operator. -/
inductive Operator where
  | add
  | subtract
  | multiply
  | divide
  | power
  | concat
  | equal
  | notEqual
  | less
  | greater
  | lessEqual
  | greaterEqual
  deriving DecidableEq, Repr

namespace Operator

/-- How an operator is written. -/
def symbol : Operator → String
  | .add => "+"
  | .subtract => "-"
  | .multiply => "*"
  | .divide => "/"
  | .power => "^"
  | .concat => "&"
  | .equal => "="
  | .notEqual => "<>"
  | .less => "<"
  | .greater => ">"
  | .lessEqual => "<="
  | .greaterEqual => ">="

/-- How tightly an operator binds, from zero for the loosest. -/
def level : Operator → Nat
  | .equal | .notEqual | .less | .greater | .lessEqual | .greaterEqual => 0
  | .concat => 1
  | .add | .subtract => 2
  | .multiply | .divide => 3
  | .power => 4

/-- The number of levels. -/
def levels : Nat := 5

theorem level_lt_levels (op : Operator) : op.level < levels := by cases op <;> decide

/-- Whether an operator compares its operands. -/
def isComparison (op : Operator) : Bool := op.level == 0

end Operator

/-- A sign in front of an operand. -/
inductive Sign where
  | plus
  | minus
  deriving DecidableEq, Repr

/-- How a sign is written. -/
def Sign.symbol : Sign → String
  | .plus => "+"
  | .minus => "-"

end Spreadsheet
