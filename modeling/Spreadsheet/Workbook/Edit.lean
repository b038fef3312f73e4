import Spreadsheet.Workbook.Compile
import Spreadsheet.Workbook.Loop

/-!
# `Workbook/Edit.lean` — writing, clearing, adding sheets and functions

Nothing is evaluated here. A write records the input and what it reads, and queues the cell and
the cells that read it; a value is found when someone asks for one. Until then a queued cell keeps
its old value on record, but no longer shows it to others.

For every cell that is read, `dependents` holds exactly the cells that read it, and never an empty
set; a tombstone goes with the last formula that reads it.
-/

set_option autoImplicit false

namespace Spreadsheet.Workbook

/-! ## The queue -/

/-- Queues a settled cell for evaluation. Its value is withdrawn until it is settled again. -/
def markDirty (w : Workbook) (id : CellId) : Workbook :=
  match w.slots[id]? with
  | some (.live c) =>
    match c.state with
    | .clean | .error =>
      { w with
        slots := w.slots.insert id (.live { c with state := .dirty })
        pending := id :: w.pending
        published := w.published.erase id }
    | .dirty | .evaluating => w
  | _ => w

/-- Queues the cells that read a cell. -/
def markDependentsDirty (w : Workbook) (id : CellId) : Workbook :=
  (w.dependentsOf id).toList.foldl markDirty w

/-! ## Who reads whom -/

/-- Records that a cell no longer reads another. -/
def dropDependent (reader : CellId) (w : Workbook) (id : CellId) : Workbook :=
  match w.dependents[id]? with
  | none => w
  | some ids =>
    let ids := ids.erase reader
    if ids.isEmpty then
      { w with
        dependents := w.dependents.erase id
        slots := if w.isTombstone id then w.slots.erase id else w.slots }
    else { w with dependents := w.dependents.insert id ids }

/-- Records that a cell reads no others. -/
def unlink (w : Workbook) (id : CellId) : Workbook :=
  (w.precedentsOf id).toList.foldl (dropDependent id) w

/-- Records that a cell reads another. -/
def addDependent (reader : CellId) (dependents : CellMap CellSet) (id : CellId) : CellMap CellSet :=
  dependents.alter id fun ids? => some ((ids?.getD ∅).insert reader)

/-- Records the cells that a cell reads. -/
def link (w : Workbook) (id : CellId) (precedents : CellSet) : Workbook :=
  { w with dependents := precedents.toList.foldl (addDependent id) w.dependents }

/-! ## Cells -/

/-- The loop that a write to a cell has closed, the members in the order in which they read each
other, last reader last. -/
def closedLoop? (w : Workbook) (id : CellId) : Option (List CellId) :=
  if (w.precedentsOf id).isEmpty || !w.dependents.contains id then none else w.loopOfDependents? id

/-- Writes an input to a cell. A write can close a loop through cells that are already settled, so
all the cells on the loop are queued with it. -/
def writeCell (w : Workbook) (id : CellId) (raw : String) : Workbook :=
  let compiled := w.compile id.sheet raw
  let value := w.settledValue id
  let w := (w.unlink id).link id compiled.precedents
  let w := { w with slots := w.slots.insert id (.live ⟨raw, compiled, value, .clean⟩) }
  let w := (w.markDirty id).markDependentsDirty id
  ((w.closedLoop? id).getD []).foldl markDirty w

/-- Clears a cell. One that formulas read leaves a tombstone, and those formulas are queued. -/
def clearCell (w : Workbook) (id : CellId) : Workbook :=
  if w.slots.contains id then
    let w := w.unlink id
    let w := { w with published := w.published.erase id }
    if w.dependents.contains id then
      { w with slots := w.slots.insert id .tombstone }.markDependentsDirty id
    else { w with slots := w.slots.erase id }
  else w

/-- Writes an input to the cell that a text names. -/
def write (w : Workbook) (text input : String) : Except Failure Workbook :=
  (w.cellId text).map (w.writeCell · input)

/-- Clears the cell that a text names. -/
def clear (w : Workbook) (text : String) : Except Failure Workbook :=
  (w.cellId text).map w.clearCell

/-! ## Sheets and functions -/

/-- Compiles a cell again from what was typed. -/
def recompile (w : Workbook) (id : CellId) : Workbook :=
  match w.cell? id with
  | some c => w.writeCell id c.raw
  | none => w

/-- The cells whose formulas have a property. -/
def formulasWhere (w : Workbook) (p : Expr → Bool) : List CellId :=
  w.slots.toList.filterMap fun (id, slot) =>
    match slot with
    | .live ⟨_, ⟨.formula e, _, _⟩, _, _⟩ => if p e then some id else none
    | _ => none

/-- Whether a formula names a sheet. -/
def namesSheet (name : String) (e : Expr) : Bool :=
  e.precedents.any fun r => r.sheet.any (Text.sameName · name)

/-- Whether a character may not stand in a sheet name. -/
def isReserved (c : Char) : Bool := c = '!' || c = '[' || c = ']'

/-- In which order cells are compiled again. The cells of a workbook are kept in a table that lists
them in no order of theirs, so any order may come up each time. -/
structure Enumeration where
  arrange : Workbook → List CellId → List CellId
  perm : ∀ w ids, (arrange w ids).Perm ids

/-- By sheets and positions. -/
def Enumeration.sorted : Enumeration := ⟨fun _ ids => ids, fun _ ids => .refl ids⟩

/-- Compiles the cells again whose formulas have a property. -/
def recompileWhere (w : Workbook) (order : Enumeration) (p : Expr → Bool) : Workbook :=
  (order.arrange w (w.formulasWhere p)).foldl recompile w

/-- Adds a sheet, unless there is one of that name already; in either case gives its number.
Formulas that named the sheet before there was one are compiled again. -/
def addSheet (w : Workbook) (name : String) (order : Enumeration := .sorted) :
    Except Failure (Nat × Workbook) :=
  let name := Text.trimmed name
  if name = "" || name.toList.any isReserved then .error (.invalidSheetName name)
  else
    match w.sheetNamed? name with
    | some sheet => .ok (sheet, w)
    | none =>
      let added := { w with sheets := w.sheets ++ [name] }
      .ok (w.sheets.length, added.recompileWhere order (namesSheet name))

/-- Adds a function, in place of one with the same name, whose calls are forgotten. Formulas that
call it are compiled again. -/
def addFunction (w : Workbook) (f : Function) (order : Enumeration := .sorted) : Workbook :=
  let added := { w with registry := w.registry.insert f, calls := w.calls.reset f.name }
  added.recompileWhere order fun e => e.calledFunctions.contains f.name

end Spreadsheet.Workbook
