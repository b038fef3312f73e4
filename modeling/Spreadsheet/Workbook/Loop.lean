import Spreadsheet.Graph.Cycle
import Spreadsheet.Workbook.Basic

/-!
# `Workbook/Loop.lean` — loops among the cells

A cell lies on a loop when following the cells it reads leads back to it, or, what comes to the
same, following the cells that read it. Only formulas that read something can lie on one.
-/

set_option autoImplicit false

namespace Spreadsheet.Workbook

variable (w : Workbook)

/-- The cells with formulas that read cells. -/
def readers : CellSet :=
  Std.ExtTreeSet.ofList <| w.slots.toList.filterMap fun (id, slot) =>
    match slot with
    | .live c => if c.compiled.precedents.isEmpty then none else some id
    | .tombstone => none

/-- A loop through a cell: each member reads the next, and the last one reads the cell. -/
def loop? (id : CellId) : Option (List CellId) :=
  Graph.loopThrough? (fun c => (w.precedentsOf c).toList) w.readers id

/-- A loop through a cell, the other way round: each member is read by the next. -/
def loopOfDependents? (id : CellId) : Option (List CellId) :=
  Graph.loopThrough? (fun c => (w.dependentsOf c).toList) w.readers id

end Spreadsheet.Workbook
