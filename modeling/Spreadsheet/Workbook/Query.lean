import Spreadsheet.Workbook.Recalculation

/-!
# `Workbook/Query.lean` — asking a workbook

What was typed, what is wrong with it and where recalculation stands can be told at once. Whoever
asks for a value has every waiting cell settled first. A preview evaluates a formula as if it stood
on a sheet, and leaves nothing behind but the calls it made.
-/

set_option autoImplicit false

namespace Spreadsheet.Workbook

/-! ## What is on record -/

/-- What was last typed into a cell; nothing if it was never written or was cleared. -/
def raw (w : Workbook) (text : String) : Except Failure String :=
  (w.cellId text).map fun id => ((w.cell? id).map Cell.raw).getD ""

/-- What was last typed into a cell, classified. -/
def input (w : Workbook) (text : String) : Except Failure Input := (w.raw text).map Input.classify

/-- What is wrong with the formula in a cell. -/
def formulaError? (w : Workbook) (text : String) : Except Failure (Option SyntaxError) :=
  (w.cellId text).map fun id =>
    match w.cell? id with
    | some ⟨_, ⟨.invalid e, _, _⟩, _, _⟩ => some e
    | _ => none

/-- Where recalculation stands with a cell. -/
def state (w : Workbook) (text : String) : Except Failure (Option CellState) :=
  (w.cellId text).map w.recordedState?

/-- The addresses of the cells on a loop through a cell. -/
def loopAddresses? (w : Workbook) (text : String) : Except Failure (Option (List Address)) :=
  (w.cellId text).map fun id => (w.loop? id).map fun ids => ids.map w.addressOf

/-! ## Values -/

/-- The workbook with every waiting cell settled. -/
def settled (steps : Nat) (w : Workbook) : Except Failure Workbook :=
  match w.drain steps with
  | some w => .ok w
  | none => .error .unsettled

/-- The value of a cell, and the workbook after finding it. -/
def value (steps : Nat) (w : Workbook) (text : String) : Except Failure (Value × Workbook) := do
  let id ← w.cellId text
  let w ← w.settled steps
  return (w.settledValue id, w)

/-- The number of the sheet that a name is for; without a name, the first. -/
def sheetFor (w : Workbook) : Option String → Except Failure Nat
  | none => .ok defaultSheet
  | some name =>
    match w.sheetNamed? name with
    | some sheet => .ok sheet
    | none => .error (.unknownSheet name)

/-- The value that a formula would have on a sheet, and the workbook after finding it. -/
def preview (steps : Nat) (w : Workbook) (source : String) (sheet : Option String) :
    Except Failure (Value × Workbook) := do
  let sheet ← w.sheetFor sheet
  match Formula.parse source with
  | .error e => .error (.formula e)
  | .ok e =>
    let w ← w.settled steps
    let (value, calls) := e.evaluate (w.environment sheet) w.calls
    return (value, { w with calls := calls })

/-- The written cells and their values, sheet by sheet and row by row. -/
def entries (w : Workbook) : List (CellId × Value) :=
  w.slots.toList.filterMap fun (id, slot) =>
    match slot with
    | .live c => some (id, c.value)
    | .tombstone => none

/-- The written cells and their settled values, and the workbook after finding them. -/
def listing (steps : Nat) (w : Workbook) : Except Failure (List (CellId × Value) × Workbook) := do
  let w ← w.settled steps
  return (w.entries, w)

end Spreadsheet.Workbook
