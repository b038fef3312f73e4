import Spreadsheet.Formula.Lexer
import Spreadsheet.Formula.Expr
import Spreadsheet.Function.Arithmetic
import Spreadsheet.Value.Order

/-!
# `Evaluation.lean` — what a formula comes to

A formula is evaluated over the *settled* values of the cells it names, read through a `CellReader`;
evaluation never goes into another cell's formula. Operands are evaluated from left to right and an
error in one of them ends the operation; the arguments of a call are all evaluated, and it is for
the function to say what becomes of errors among them.

The only thing that evaluation changes is the count of calls of each function.
-/

set_option autoImplicit false

namespace Spreadsheet

/-- How a formula reads cells. -/
structure CellReader where
  /-- The settled value of a cell; a cell never written is empty. -/
  value : Address → Value
  /-- Whether a cell was cleared while formulas still named it: on its own it is then no valid
  reference, inside a range it is empty. -/
  isCleared : Address → Bool
  /-- Whether there is a sheet of this name; no name stands for the sheet at hand. -/
  hasSheet : Option String → Bool

/-- All that a formula's value depends on, the counts of calls apart. -/
structure Environment where
  cells : CellReader
  registry : Registry
  now : Moment
  seed : Nat
  /-- A range of more cells than this is no valid reference. -/
  maxRangeCells : Nat

/-- A computation that may call functions. -/
abbrev Evaluation (α : Type) := StateM CallCounts α

namespace Environment

/-- The value of a cell named on its own. -/
def cell (env : Environment) (a : Address) : Value :=
  if !env.cells.hasSheet a.sheet || env.cells.isCleared a then .error .badReference
  else env.cells.value a

/-- Whether a range is not too large to be read. -/
def admitsRange (maxRangeCells : Nat) (r : Range) : Bool := r.size?.any (· ≤ maxRangeCells)

/-- The values of a range as a block. -/
def range (env : Environment) (r : Range) : Value :=
  if env.cells.hasSheet r.sheet && admitsRange env.maxRangeCells r then
    .block ⟨r.rows, r.columns, fun i j => env.cells.value (r.addressAt (r.offset i j))⟩
  else .error .badReference

/-- Calls a function and counts the call, unless its arguments are refused. -/
def invoke (env : Environment) (f : Function) (args : List Value) : Evaluation Value := fun calls =>
  match f.accepted args with
  | .ok args => (f.compute ⟨env.now, env.seed, calls.count f.name⟩ args, calls.increment f.name)
  | .error e => (.error e, calls)

end Environment

/-! ## Operators -/

/-- Whether two values are of one kind; an empty cell is of every kind. -/
def Value.sameKind : Value → Value → Bool
  | .blank, _ | _, .blank => true
  | .number _, .number _ => true
  | .text _, .text _ => true
  | .bool _, .bool _ => true
  | _, _ => false

/-- Whether two values are equal as formulas see it. -/
def Value.isEqual (x y : Value) : Bool := x.sameKind y && x.isLevel y

/-- A numeric operation on two operands. -/
def numericOperation (f : Float → Float → Except ErrorCode Float) (x y : Value) : Value :=
  match x.toNumber, y.toNumber with
  | .ok x, .ok y =>
    match f x y with
    | .ok z => .ofFloat z
    | .error e => .error e
  | .error e, _ => .error e
  | _, .error e => .error e

/-- Two operands joined as texts. -/
def joinTexts (x y : Value) : Value :=
  match x.toText, y.toText with
  | .ok x, .ok y => .text (x ++ y)
  | .error e, _ => .error e
  | _, .error e => .error e

/-- What an operator makes of two operands without errors. -/
def Operator.apply (op : Operator) (x y : Value) : Value :=
  match op with
  | .add => numericOperation (fun a b => .ok (a + b)) x y
  | .subtract => numericOperation (fun a b => .ok (a - b)) x y
  | .multiply => numericOperation (fun a b => .ok (a * b)) x y
  | .divide => numericOperation quotient x y
  | .power => numericOperation Spreadsheet.power x y
  | .concat => joinTexts x y
  | .equal => .bool (x.isEqual y)
  | .notEqual => .bool (!x.isEqual y)
  | .less => .bool (x.compare y == .lt)
  | .greater => .bool (x.compare y == .gt)
  | .lessEqual => .bool (x.compare y != .gt)
  | .greaterEqual => .bool (x.compare y != .lt)

/-- What a sign makes of an operand. -/
def Sign.apply (sign : Sign) (v : Value) : Value :=
  match v.toNumber, sign with
  | .ok x, .plus => .number x
  | .ok x, .minus => .number (-x)
  | .error e, _ => .error e

/-! ## Formulas -/

/-- What a cell shows for a formula's result: the entry of a block of one, and zero for nothing. -/
def Value.asResult (v : Value) : Value :=
  match v.unwrap with
  | .blank => .number 0.0
  | v => v

namespace Expr

/-- What a bare name comes to: one that is shaped like a cell names a cell that does not exist. -/
def ofName (s : String) : Value :=
  if Token.isCellShaped s.toList then .error .badReference else .error .unknownName

mutual

/-- What a formula comes to, blocks and empty cells included. -/
def eval (env : Environment) : Expr → Evaluation Value
  | .number x => pure (.number x)
  | .text s => pure (.text s)
  | .bool b => pure (.bool b)
  | .cell a => pure (env.cell a)
  | .range r => pure (env.range r)
  | .name s => pure (ofName s)
  | .unary sign operand => do
    let v ← operand.eval env
    return sign.apply v.unwrap
  | .binary op lhs rhs => do
    let x ← lhs.eval env
    match x.unwrap with
    | .error e => return .error e
    | x =>
      let y ← rhs.eval env
      match y.unwrap with
      | .error e => return .error e
      | y => return op.apply x y
  | .call function args =>
    match env.registry.find? function with
    | none => pure (.error .unknownName)
    | some f => do
      let values ← evalEach env args
      env.invoke f values
termination_by structural e => e

/-- What arguments come to, from left to right. -/
def evalEach (env : Environment) : List Expr → Evaluation (List Value)
  | [] => pure []
  | e :: more => do
    let v ← e.eval env
    let vs ← evalEach env more
    return v :: vs
termination_by structural es => es

end

/-- The value that a cell with this formula has. -/
def evaluate (env : Environment) (e : Expr) : Evaluation Value := Value.asResult <$> e.eval env

end Expr

end Spreadsheet
