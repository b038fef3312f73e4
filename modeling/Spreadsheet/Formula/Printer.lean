import Spreadsheet.Decimal.Shortest
import Spreadsheet.Formula.Parser

/-!
# `Formula/Printer.lean` — writing a formula down

A formula has one canonical text: function names in capitals, single spaces around comparisons and
behind commas, parentheses only where the grouping would be lost without them. A negative number,
which no formula's text can spell as a literal, is written as a sign in parentheses.
-/

set_option autoImplicit false

namespace Spreadsheet.Expr

/-- Whether an operand on the left needs parentheses under an operator of a level: it is a chain of
looser operators. -/
def needsParensLeft (k : Nat) : Expr → Bool
  | .binary op _ _ => op.level < k
  | _ => false

/-- Whether an operand on the right needs parentheses under an operator of a level: chains group
to the left, so one of the same level does too. -/
def needsParensRight (k : Nat) : Expr → Bool
  | .binary op _ _ => op.level ≤ k
  | _ => false

/-- Whether an operand needs parentheses behind a sign. -/
def needsParensSigned : Expr → Bool
  | .binary _ _ _ => true
  | _ => false

/-- A text in parentheses, if it needs them. -/
def parenthesize (needed : Bool) (s : List Char) : List Char :=
  if needed then ['('] ++ s ++ [')'] else s

/-- A literal number. -/
def writeNumber (x : Float) : List Char :=
  if x < 0.0 then ['(', '-'] ++ (Decimal.text (-x)).toList ++ [')'] else (Decimal.text x).toList

/-- A literal text. -/
def writeText (s : List Char) : List Char :=
  ['"'] ++ s.flatMap (fun c => if c = '"' then ['"', '"'] else [c]) ++ ['"']

/-- An operator between its operands. -/
def writeOperator (op : Operator) : List Char :=
  if op.isComparison then [' '] ++ op.symbol.toList ++ [' '] else op.symbol.toList

mutual

/-- The canonical text of a formula, without the equals sign. -/
def write : Expr → List Char
  | .number x => writeNumber x
  | .text s => writeText s.toList
  | .bool b => if b then "TRUE".toList else "FALSE".toList
  | .cell a => a.write
  | .range r => r.text.toList
  | .name s => s.toList
  | .unary sign operand =>
    sign.symbol.toList ++ parenthesize operand.needsParensSigned operand.write
  | .binary op lhs rhs =>
    parenthesize (lhs.needsParensLeft op.level) lhs.write ++ writeOperator op ++
      parenthesize (rhs.needsParensRight op.level) rhs.write
  | .call function args => (Text.latinUpper function).toList ++ ['('] ++ writeArgs args ++ [')']
termination_by structural e => e

/-- The canonical texts of arguments, with commas between. -/
def writeArgs : List Expr → List Char
  | [] => []
  | [e] => e.write
  | e :: more => e.write ++ [',', ' '] ++ writeArgs more
termination_by structural es => es

end

/-- The canonical text of a formula, as a string. -/
def print (e : Expr) : String := String.ofList e.write

end Spreadsheet.Expr

/-- The canonical text of the formula that a text spells. -/
def Spreadsheet.Formula.normalize (source : String) : Except Spreadsheet.SyntaxError String :=
  Spreadsheet.Expr.print <$> Spreadsheet.Formula.parse source
