import Spreadsheet.Workbook.Edit
import Spreadsheet.Workbook.View

/-!
# `Workbook/Recalculation.lean` — settling the cells that wait

A pass takes one waiting cell after the other. Before a cell is evaluated, the cells it reads are:
they are stacked on top of it, and it is *expanded*. When it comes to the top again it is
evaluated, and if its value has changed, the cells that read it are queued. A pass is over when
nothing is stacked and nothing waits.

A cell that is reached while it is itself being evaluated closes a loop. All cells on the loop are
settled on the error of a loop, without being evaluated; a cell that reads one settled like this
earlier stays with it as long as it lies on a loop.

Sheets with overlapping loops are known on which this goes on for ever, so a pass is given a
number of steps to make.
-/

set_option autoImplicit false

namespace Spreadsheet

namespace Workbook

/-! ## Settling -/

/-- Settles a cell on a value and shows it. -/
def settle (w : Workbook) (id : CellId) (value : Value) (state : CellState) : Workbook :=
  match w.cell? id with
  | some c =>
    { w with
      slots := w.slots.insert id (.live { c with value := value, state := state })
      published := w.published.insert id value }
  | none => w

/-- Whether settling a cell on a value changes it. -/
def changes (w : Workbook) (id : CellId) (value : Value) : Bool :=
  (w.cell? id).any fun c => !c.value.same value

/-- The value of a compiled input on a sheet, and the workbook after finding it. -/
def evaluateContent (w : Workbook) (sheet : Nat) : Content → Value × Workbook
  | .literal s => (.scalar s, w)
  | .invalid _ => (.error .unknownName, w)
  | .formula e =>
    let (value, calls) := e.evaluate (w.environment sheet) w.calls
    (value, { w with calls := calls, evaluations := w.evaluations + 1 })

/-- Evaluates a cell and settles it, and queues the cells that read it if it has changed. -/
def evaluateCell (w : Workbook) (id : CellId) : Workbook :=
  match w.cell? id with
  | some c =>
    let (value, w) := w.evaluateContent id.sheet c.compiled.content
    let changed := w.changes id value
    let w := w.settle id value (if value.isError then .error else .clean)
    if changed then w.markDependentsDirty id else w
  | none => w

/-- Queues the cells that read a member of a loop and are no members themselves. -/
def markReadersOutside (members : List CellId) (w : Workbook) (id : CellId) : Workbook :=
  ((w.dependentsOf id).toList.filter (· ∉ members)).foldl markDirty w

/-- Settles the members of a loop. -/
def settleLoop (w : Workbook) (members : List CellId) : Workbook :=
  let w := members.foldl (fun w id => w.settle id (.error .cycle) .error) w
  members.foldl (markReadersOutside members) w

/-- Puts a cell into the state of being evaluated. -/
def beginEvaluation (w : Workbook) (id : CellId) : Workbook :=
  match w.cell? id with
  | some c => { w with slots := w.slots.insert id (.live { c with state := .evaluating }) }
  | none => w

end Workbook

/-! ## Passes -/

/-- A cell on the stack of a pass. -/
structure Frame where
  cell : CellId
  /-- The cells it reads have been looked at. -/
  expanded : Bool
  deriving DecidableEq, Repr

/-- A pass under way: the workbook, and the stack with its top first. -/
structure Pass where
  book : Workbook
  stack : List Frame

namespace Pass

/-- The expanded cells of a stack from a cell to the top: the loop that reading the cell closes. -/
def loopFrom (id : CellId) (stack : List Frame) : List CellId :=
  let expanded := (stack.reverse.filter Frame.expanded).map Frame.cell
  match expanded.dropWhile (· ≠ id) with
  | [] => expanded
  | members => members

/-- Looks at the cells that a cell reads, in order: those waiting are stacked, and a loop is
settled as soon as it is found. -/
def request (id : CellId) (p : Pass) : List CellId → Pass
  | [] => p
  | read :: rest =>
    match p.book.state? read with
    | some .dirty => request id { p with stack := ⟨read, false⟩ :: p.stack } rest
    | some .evaluating => { p with book := p.book.settleLoop (loopFrom read p.stack) }
    | some .error =>
      if p.book.isCyclic read then
        match p.book.loop? id with
        | some members => { p with book := p.book.settleLoop members }
        | none => request id p rest
      else request id p rest
    | _ => request id p rest

/-- One step of a pass; none if it is over. -/
def step (p : Pass) : Option Pass :=
  match p.stack with
  | [] =>
    match p.book.pending with
    | [] => none
    | id :: rest => some ⟨{ p.book with pending := rest }, [⟨id, false⟩]⟩
  | ⟨id, true⟩ :: stack =>
    some ⟨if p.book.state? id = some .evaluating then p.book.evaluateCell id else p.book, stack⟩
  | ⟨id, false⟩ :: stack =>
    if p.book.state? id = some .dirty then
      some (request id ⟨p.book.beginEvaluation id, ⟨id, true⟩ :: stack⟩
        (p.book.precedentsOf id).toList)
    else some ⟨p.book, stack⟩

/-- Makes steps until the pass is over; none if it takes more than the given number. -/
def run : Nat → Pass → Option Workbook
  | 0, _ => none
  | steps + 1, p =>
    match p.step with
    | none => some p.book
    | some p => run steps p

end Pass

namespace Workbook

/-- Settles every cell that waits. -/
def drain (steps : Nat) (w : Workbook) : Option Workbook := Pass.run steps ⟨w, []⟩

/-- The cells that must be recomputed on every pass, in order. -/
def volatileCells (w : Workbook) : List CellId :=
  w.slots.toList.filterMap fun (id, slot) =>
    match slot with
    | .live c => if c.compiled.volatile then some id else none
    | .tombstone => none

/-- Settles every cell that waits or must be recomputed on every pass. -/
def recalculate (steps : Nat) (w : Workbook) : Option Workbook :=
  (w.volatileCells.foldl markDirty w).drain steps

end Workbook

end Spreadsheet
