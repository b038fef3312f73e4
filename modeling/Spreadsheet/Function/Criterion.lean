import Spreadsheet.Function.Argument
import Spreadsheet.Text.Glob
import Spreadsheet.Value.Order

/-!
# `Function/Criterion.lean` — criteria and the aggregates that go by them

A criterion is a value to be equal to, or a text that starts with a comparison (`>=10`,
`<>done`), or a text with wildcards. What stands behind the comparison is a number if it looks
like one, a truth value if it is the name of one, and a text otherwise; wildcards count only where
the comparison is equality or its opposite.

A cell and an operand may have no order between them, as a truth value and a number have none.
Such a cell is unequal to the operand and satisfies no other comparison.
-/

set_option autoImplicit false

namespace Spreadsheet

/-- A comparison that a criterion may start with. -/
inductive Comparison where
  | equal
  | notEqual
  | less
  | lessEqual
  | greater
  | greaterEqual
  deriving DecidableEq, Repr

/-- Whether a comparison holds of two things in this order, if there is an order between them. -/
def Comparison.holds : Comparison → Option Ordering → Bool
  | .equal, order => order == some .eq
  | .notEqual, order => order != some .eq
  | .less, order => order == some .lt
  | .lessEqual, order => order == some .lt || order == some .eq
  | .greater, order => order == some .gt
  | .greaterEqual, order => order == some .gt || order == some .eq

/-- What a cell has to satisfy to be counted. -/
inductive Criterion where
  /-- To stand in a comparison to an operand. -/
  | compare (op : Comparison) (operand : Scalar)
  /-- To pass the test of a pattern, or not to. -/
  | pattern (test : String → Bool) (negated : Bool)

namespace Criterion

variable (engine : Regex.Engine)

/-- The comparison that a text starts with and what stands behind it; equality if there is none. -/
def splitComparison : List Char → Comparison × List Char
  | '>' :: '=' :: rest => (.greaterEqual, rest)
  | '<' :: '=' :: rest => (.lessEqual, rest)
  | '<' :: '>' :: rest => (.notEqual, rest)
  | '>' :: rest => (.greater, rest)
  | '<' :: rest => (.less, rest)
  | '=' :: rest => (.equal, rest)
  | s => (.equal, s)

/-- What a text stands for as an operand. -/
def operand (s : String) : Scalar :=
  match NumericText.read? s.toList with
  | some x => .number x
  | none =>
    if Text.sameName s "TRUE" then .bool true
    else if Text.sameName s "FALSE" then .bool false
    else .text s

/-- The criterion that a text spells. -/
def ofText (s : String) : Criterion :=
  let (op, rest) := splitComparison s.toList
  let rest := String.ofList rest
  let wild := if op = .equal ∨ op = .notEqual then Text.Glob.ofText? engine rest else none
  match wild with
  | some test => .pattern test (op = .notEqual)
  | none => .compare op (operand rest)

/-- The criterion that a value stands for; an empty cell asks for the empty text. -/
def ofValue (v : Value) : Except ErrorCode Criterion := do
  match ← v.scalar? with
  | .text s => return ofText engine s
  | .blank => return .compare .equal (.text "")
  | s => return .compare .equal s

/-- The order of numbers, if there is one. -/
def orderNumbers (x y : Float) : Option Ordering :=
  if x < y then some .lt else if y < x then some .gt else if x == y then some .eq else none

/-- How a cell stands to an operand, if the two can be compared. -/
def order : Value → Scalar → Option Ordering
  | .number x, .number y => orderNumbers x y
  | .text s, .number y => (NumericText.read? s.toList).bind (orderNumbers · y)
  | .text x, .text y => some (compareTexts x y)
  | .blank, .text y => some (Ord.compare "" y)
  | .bool x, .bool y => some (compareBools x y)
  | _, _ => none

/-- Whether the text of a cell passes a test. Empty cells have no text. -/
def fits (test : String → Bool) : Value → Bool
  | .blank => false
  | .scalar s => test s.toText
  | _ => false

/-- Whether a cell satisfies a criterion. -/
def isMet : Criterion → Value → Bool
  | .compare op operand, cell => op.holds (order cell operand)
  | .pattern test negated, cell => fits test cell != negated

/-! ## Aggregates -/

open Argument

/-- The cells that a criterion is asked of, the criterion, and the values that go with the cells:
those of a block of the same shape, or the cells themselves. -/
def arguments : List Value → Except ErrorCode (Block Value × Criterion × Block Value)
  | cells :: criterion :: rest => do
    let cells ← block cells
    let criterion ← ofValue engine criterion
    match rest with
    | [] => return (cells, criterion, cells)
    | values :: _ =>
      let values ← block values
      if values.rows = cells.rows ∧ values.columns = cells.columns then
        return (cells, criterion, values)
      else .error .badReference
  | _ => .error .typeMismatch

/-- The number that a value adds, if it adds one; an error among the values ends the aggregate. -/
def addend? : Value → Except ErrorCode (Option Float)
  | .number x => .ok (some x)
  | .error e => .error e
  | _ => .ok none

/-- The numbers among the values whose cells satisfy the criterion. -/
def matchedNumbers (args : List Value) : Except ErrorCode (List Float) := do
  let (cells, criterion, values) ← arguments engine args
  let chosen := (cells.cells.zip values.cells).filter fun (cell, _) => criterion.isMet cell
  return (← chosen.mapM fun (_, value) => addend? value).filterMap id

def sumIf (args : List Value) : Value :=
  .ofExcept ((fun xs => .number (sum xs)) <$> matchedNumbers engine args)

def averageIf (args : List Value) : Value :=
  .ofExcept ((fun x => .number x) <$> (matchedNumbers engine args >>= mean))

def countIf : List Value → Value
  | [cells, criterion] => .ofExcept do
    let cells ← block cells
    let criterion ← ofValue engine criterion
    return .number (Float.ofNat (cells.cells.countP criterion.isMet))
  | _ => .error .typeMismatch

def functions : List Function :=
  [ .ofArguments "SUMIF" (.between 2 3) .lookup (sumIf engine),
    .ofArguments "COUNTIF" (.exactly 2) .lookup (countIf engine),
    .ofArguments "AVERAGEIF" (.between 2 3) .lookup (averageIf engine) ]

end Criterion

end Spreadsheet
