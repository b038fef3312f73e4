import Spreadsheet.Evaluation
import Spreadsheet.Formula.Parser
import Spreadsheet.Formula.Reference
import Spreadsheet.Workbook.Basic

/-!
# `Workbook/Compile.lean` — from an input to what is kept of it

A formula is parsed once, when it is written, and the cells it reads are worked out from its tree.
They are all the cells that evaluating it can look at: every cell it names and every cell of every
range, on sheets that there are. A range that is too large is never read, and adds none.
-/

set_option autoImplicit false

namespace Spreadsheet.Workbook

variable (w : Workbook)

/-- The cells that a reference covers, as seen from a sheet. -/
def covered (sheet : Nat) : Reference → List CellId
  | .cell a => (w.resolve? sheet a).toList
  | .range r =>
    match w.sheetOf? sheet r.sheet with
    | some target =>
      if Environment.admitsRange w.settings.maxRangeCells r
        then r.positions.map (⟨target, ·⟩) else []
    | none => []

/-- The cells that a formula on a sheet reads. -/
def precedentsOn (sheet : Nat) (e : Expr) : CellSet :=
  Std.ExtTreeSet.ofList (e.precedents.flatMap (w.covered sheet))

/-- Whether a formula calls a function that must be recomputed on every pass. -/
def callsVolatile (e : Expr) : Bool := e.calledFunctions.any w.registry.isVolatile

/-- Compiles an input for a sheet. -/
def compile (sheet : Nat) (raw : String) : Compiled :=
  match Input.classify raw with
  | .literal s => ⟨.literal s, ∅, false⟩
  | .formula source =>
    match Formula.parse source with
    | .ok e => ⟨.formula e, w.precedentsOn sheet e, w.callsVolatile e⟩
    | .error e => ⟨.invalid e, ∅, false⟩

end Spreadsheet.Workbook
