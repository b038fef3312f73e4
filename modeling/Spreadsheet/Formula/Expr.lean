import Spreadsheet.Address.Range
import Spreadsheet.Formula.Operator

/-!
# `Formula/Expr.lean` — formulas as trees

Parentheses leave no trace in a tree. A name is whatever could be read neither as a cell nor as a
call; among them are texts shaped like a cell that lies outside every sheet.
-/

set_option autoImplicit false

namespace Spreadsheet

/-- A formula. -/
inductive Expr where
  | number (x : Float)
  | text (s : String)
  | bool (b : Bool)
  | cell (a : Address)
  | range (r : Range)
  | name (s : String)
  | unary (sign : Sign) (operand : Expr)
  | binary (op : Operator) (lhs rhs : Expr)
  | call (function : String) (args : List Expr)
  deriving BEq, Repr

end Spreadsheet
