import Spreadsheet.Formula.Expr
import Spreadsheet.Text.Case

/-!
# `Formula/Reference.lean` — what a formula reads and calls

The cells and ranges that a formula names are collected from its tree, so a reference inside a
text literal does not count, and a reference in a branch that is never chosen does.
-/

set_option autoImplicit false

namespace Spreadsheet

/-- Something that a formula reads. -/
inductive Reference where
  | cell (a : Address)
  | range (r : Range)
  deriving DecidableEq, Repr

namespace Reference

/-- The sheet that a reference names. -/
def sheet : Reference → Option String
  | .cell a => a.sheet
  | .range r => r.sheet

/-- The text of a reference. -/
def text : Reference → String
  | .cell a => a.text
  | .range r => r.text

end Reference

namespace Expr

mutual

/-- Every reference in a formula, as often and in the order it is written. -/
def references : Expr → List Reference
  | .cell a => [.cell a]
  | .range r => [.range r]
  | .unary _ operand => operand.references
  | .binary _ lhs rhs => lhs.references ++ rhs.references
  | .call _ args => referencesEach args
  | _ => []
termination_by structural e => e

/-- Every reference in arguments. -/
def referencesEach : List Expr → List Reference
  | [] => []
  | e :: more => e.references ++ referencesEach more
termination_by structural es => es

end

mutual

/-- The name of every function that a formula calls, as often and in the order it is written. -/
def calls : Expr → List String
  | .unary _ operand => operand.calls
  | .binary _ lhs rhs => lhs.calls ++ rhs.calls
  | .call function args => Text.latinUpper function :: callsEach args
  | _ => []
termination_by structural e => e

/-- The name of every function called in arguments. -/
def callsEach : List Expr → List String
  | [] => []
  | e :: more => e.calls ++ callsEach more
termination_by structural es => es

end

/-- Keeps the first of equal entries. -/
def firstOfEach {α : Type} [BEq α] (xs : List α) : List α :=
  (xs.foldl (fun seen x => if seen.contains x then seen else x :: seen) []).reverse

/-- What a formula reads, each reference once. -/
def precedents (e : Expr) : List Reference := firstOfEach e.references

/-- The functions that a formula calls, each once, in capitals. -/
def calledFunctions (e : Expr) : List String := firstOfEach e.calls

end Expr

end Spreadsheet
