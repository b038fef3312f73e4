import Spreadsheet.Function.Basic
import Spreadsheet.Value.Coercion

/-!
# `Function/Argument.lean` — how functions take their arguments apart

Aggregates take blocks apart into their entries and treat an entry of a block otherwise than the
same value passed on its own: a truth value in a block is not a number, say. Entries come in the
order of the arguments and within a block row by row; a block inside a block stays whole.
-/

set_option autoImplicit false

namespace Spreadsheet.Argument

/-- A value that an aggregate looks at, and whether it came out of a block. -/
structure Entry where
  value : Value
  inBlock : Bool

/-- The values that an argument contributes. -/
def entries : Value → List Entry
  | .block b => b.cells.map fun v => ⟨v, true⟩
  | v => [⟨v, false⟩]

/-- The values that arguments contribute, in order. -/
def flatten (args : List Value) : List Entry := args.flatMap entries

/-- The number that an entry adds to a numeric aggregate, if it adds one. Texts that look like
numbers do, truth values only when passed on their own, and an error ends the aggregate. -/
def Entry.number? (entry : Entry) : Except ErrorCode (Option Float) :=
  match entry.value with
  | .number x => .ok (some x)
  | .text s => .ok (NumericText.read? s.toList)
  | .bool b => .ok (if entry.inBlock then none else some (Scalar.ofBool b))
  | .error e => .error e
  | _ => .ok none

/-- The numbers of an aggregate, in order. -/
def numbers (args : List Value) : Except ErrorCode (List Float) := do
  let found ← (flatten args).mapM Entry.number?
  return found.filterMap id

/-- The sum of numbers, from left to right; the sum of none is a negative zero. -/
def sum (xs : List Float) : Float := xs.foldl (· + ·) (-0.0)

/-- The product of numbers, from left to right. -/
def product (xs : List Float) : Float := xs.foldl (· * ·) 1.0

/-- The mean of numbers, if there are any. -/
def mean (xs : List Float) : Except ErrorCode Float :=
  if xs.isEmpty then .error .divideByZero else .ok (sum xs / Float.ofNat xs.length)

/-- An argument as a block; a scalar is a block of one entry. -/
def block : Value → Except ErrorCode (Block Value)
  | .block b => .ok b
  | .error e => .error e
  | v => .ok (Block.single v)

/-- A numeric result; what is not finite becomes an error. -/
def numberResult : Except ErrorCode Float → Value
  | .ok x => .ofFloat x
  | .error e => .error e

/-- A text as a result. -/
def textResult : Except ErrorCode String → Value
  | .ok s => .text s
  | .error e => .error e

/-- A truth value as a result. -/
def boolResult : Except ErrorCode Bool → Value
  | .ok b => .bool b
  | .error e => .error e

end Spreadsheet.Argument
