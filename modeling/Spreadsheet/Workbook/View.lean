import Spreadsheet.Evaluation
import Spreadsheet.Workbook.Basic

/-!
# `Workbook/View.lean` — a workbook as the formulas on a sheet see it

A reference without a sheet is about the formula's own sheet. Formulas see the values that cells
were last settled on, and nothing of what is still waiting.
-/

set_option autoImplicit false

namespace Spreadsheet.Workbook

variable (w : Workbook)

/-- How formulas on a sheet read cells. -/
def reader (sheet : Nat) : CellReader where
  value a :=
    match w.resolve? sheet a with
    | some id => w.settledValue id
    | none => .error .badReference
  isCleared a := (w.resolve? sheet a).any w.isTombstone
  hasSheet name := (w.sheetOf? sheet name).isSome

/-- All that the values of formulas on a sheet depend on. -/
def environment (sheet : Nat) : Environment where
  cells := w.reader sheet
  registry := w.registry
  now := w.now
  seed := w.seed
  maxRangeCells := w.settings.maxRangeCells

end Spreadsheet.Workbook
