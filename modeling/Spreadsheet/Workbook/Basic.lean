import Spreadsheet.Failure
import Spreadsheet.Formula.Expr
import Spreadsheet.Function.Library
import Spreadsheet.Settings.Basic
import Std.Data.ExtTreeSet

/-!
# `Workbook/Basic.lean` — sheets, cells and what is known about them

A workbook is a list of sheets and the cells written on them. Of every cell it keeps what was
typed, what that was compiled to, the value the cell was last settled on, and where recalculation
stands with it. Beside the cells it keeps

* for every cell that is read, the cells that read it (`dependents`);
* the cells that wait to be recalculated, the last one to be queued first (`pending`);
* the settled values that others may look at while cells are waiting (`published`).

A cell that is cleared while formulas read it leaves a *tombstone*, so that those formulas find a
reference that is no longer valid rather than an empty cell.
-/

set_option autoImplicit false

namespace Spreadsheet

/-- A position on one of the sheets, which are numbered from zero. -/
structure CellId where
  sheet : Nat
  position : Position
  deriving DecidableEq, Repr

namespace CellId

instance : Ord CellId where
  compare := compareLex (compareOn CellId.sheet) (compareOn CellId.position)

instance : Std.TransOrd CellId :=
  inferInstanceAs (Std.TransCmp (compareLex (compareOn CellId.sheet) (compareOn CellId.position)))

theorem compare_eq_eq_iff {a b : CellId} : compare a b = .eq ↔ a = b := by
  show compareLex (compareOn CellId.sheet) (compareOn CellId.position) a b = .eq ↔ a = b
  rw [compareLex_eq_eq]
  cases a
  cases b
  simp [compareOn]

instance : Std.LawfulEqOrd CellId where
  eq_of_compare := compare_eq_eq_iff.1

end CellId

/-- A set of cells, in the order of sheets and positions. -/
abbrev CellSet := Std.ExtTreeSet CellId

/-- A map from cells, in the order of sheets and positions. -/
abbrev CellMap (α : Type) := Std.ExtTreeMap CellId α

/-- Where recalculation stands with a cell. -/
inductive CellState where
  /-- Settled on an ordinary value. -/
  | clean
  /-- Waiting to be evaluated. -/
  | dirty
  /-- Being evaluated, or waiting for the cells it reads. -/
  | evaluating
  /-- Settled on an error. -/
  | error
  deriving DecidableEq, Repr

/-- What an input was compiled to. -/
inductive Content where
  | literal (s : Scalar)
  | formula (e : Expr)
  /-- A formula whose text has a fault. -/
  | invalid (e : SyntaxError)
  deriving Repr

/-- An input, compiled for a sheet. -/
structure Compiled where
  content : Content
  /-- The cells that the formula reads, those of ranges one by one. -/
  precedents : CellSet
  /-- Whether the formula calls a function that must be recomputed on every pass. -/
  volatile : Bool

/-- A cell that was written. -/
structure Cell where
  /-- What was typed. -/
  raw : String
  compiled : Compiled
  /-- The value that the cell was last settled on. -/
  value : Value
  state : CellState

/-- What a workbook has on record for a position. -/
inductive Slot where
  | live (c : Cell)
  /-- The cell was cleared while formulas read it. -/
  | tombstone

/-- A workbook. -/
structure Workbook where
  settings : Settings
  registry : Registry
  calls : CallCounts
  /-- The names of the sheets, by their numbers. -/
  sheets : List String
  slots : CellMap Slot
  dependents : CellMap CellSet
  pending : List CellId
  published : CellMap Value
  /-- The time that functions of the clock go by. -/
  now : Moment
  /-- What random functions start from. -/
  seed : Nat
  /-- How many formulas have been evaluated so far. -/
  evaluations : Nat

namespace Workbook

/-- The first sheet's name: the configured one, or the usual one if that is blank. -/
def firstSheetName (settings : Settings) : String :=
  let name := Text.trimmed settings.defaultSheet
  if name = "" then Settings.default.defaultSheet else name

/-- A workbook with one empty sheet and the built-in functions. -/
def create (settings : Settings) (now : Moment) (seed : Nat)
    (engine : Regex.Engine := .standard) : Workbook where
  settings := settings
  registry := Registry.library engine
  calls := CallCounts.initial
  sheets := [firstSheetName settings]
  slots := ∅
  dependents := ∅
  pending := []
  published := ∅
  now := now
  seed := seed
  evaluations := 0

variable (w : Workbook)

/-! ## Names and addresses -/

/-- The number of the sheet with a name, in whatever case. -/
def sheetNamed? (name : String) : Option Nat := w.sheets.findIdx? (Text.sameName · name)

/-- The number of the first sheet. -/
def defaultSheet : Nat := 0

/-- The sheet that a reference on a sheet is about: the one it names, or else the sheet at hand. -/
def sheetOf? (sheet : Nat) : Option String → Option Nat
  | some name => w.sheetNamed? name
  | none => some sheet

/-- The cell that an address names, as seen from a sheet, if it names a sheet that there is. -/
def resolve? (sheet : Nat) (a : Address) : Option CellId :=
  (w.sheetOf? sheet a.sheet).map (⟨·, a.position⟩)

/-- The cell that a text names, as seen from the first sheet. -/
def cellId (text : String) : Except Failure CellId :=
  match Address.ofText? text with
  | none => .error (.invalidAddress text)
  | some a =>
    match w.resolve? defaultSheet a with
    | some id => .ok id
    | none => .error (.unknownSheet (a.sheet.getD ""))

/-- The address of a cell, its sheet included. -/
def addressOf (id : CellId) : Address := Address.ofPosition w.sheets[id.sheet]? id.position

/-! ## Cells -/

/-- The cell on record, unless it was cleared. -/
def cell? (id : CellId) : Option Cell :=
  match w.slots[id]? with
  | some (.live c) => some c
  | _ => none

/-- Whether a cell was cleared while formulas read it. -/
def isTombstone (id : CellId) : Bool :=
  match w.slots[id]? with
  | some .tombstone => true
  | _ => false

/-- Where recalculation stands with a cell that was not cleared. -/
def state? (id : CellId) : Option CellState := (w.cell? id).map Cell.state

/-- The state on record for a position; a tombstone is settled for good. -/
def recordedState? (id : CellId) : Option CellState :=
  match w.slots[id]? with
  | some (.live c) => some c.state
  | some .tombstone => some .clean
  | none => none

/-- The value that a cell was last settled on. -/
def settledValue (id : CellId) : Value :=
  match w.cell? id with
  | some c => c.value
  | none => .blank

/-- The cells that a cell reads. -/
def precedentsOf (id : CellId) : CellSet :=
  match w.cell? id with
  | some c => c.compiled.precedents
  | none => ∅

/-- The cells that read a cell. -/
def dependentsOf (id : CellId) : CellSet := (w.dependents[id]?).getD ∅

/-- Whether a cell holds the error of a loop. -/
def isCyclic (id : CellId) : Bool :=
  match w.settledValue id with
  | .error .cycle => true
  | _ => false

end Workbook

end Spreadsheet
