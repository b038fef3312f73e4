import Spreadsheet.TextFile
import Spreadsheet.Workbook.Recalculation

/-!
# `Workbook/Load.lean` — writing the cells of a sheet file

All sheets that a file names are added before its first cell is written, so that a formula may name
a sheet that comes further down. A file with a faulty line changes nothing. A file that names a
sheet no workbook can have writes no cell either, but the sheets that it named before stay.
-/

set_option autoImplicit false

namespace Spreadsheet.Workbook

/-- Adds the sheets that entries belong to, in order; stops at the first impossible name. -/
def addSheets (order : Enumeration) (w : Workbook) :
    List SheetFile.Entry → Except Failure Unit × Workbook
  | [] => (.ok (), w)
  | entry :: rest =>
    match entry.sheet with
    | none => w.addSheets order rest
    | some name =>
      match w.addSheet name order with
      | .ok (_, w) => w.addSheets order rest
      | .error e => (.error e, w)

/-- Writes the cell of an entry, whose sheet there must be. -/
def writeEntry (w : Workbook) (entry : SheetFile.Entry) : Workbook :=
  match w.sheetOf? defaultSheet entry.sheet with
  | some sheet => w.writeCell ⟨sheet, entry.position⟩ entry.input
  | none => w

/-- Writes the cells of a sheet file and recalculates once. The count is that of the cells
written. -/
def load (steps : Nat) (w : Workbook) (content : String) (order : Enumeration := .sorted) :
    Except Failure Nat × Workbook :=
  match SheetFile.parse content with
  | .error (number, fault) => (.error (.malformedLine number fault), w)
  | .ok entries =>
    match w.addSheets order entries with
    | (.error e, w) => (.error e, w)
    | (.ok (), w) =>
      let written := entries.foldl writeEntry w
      match written.recalculate steps with
      | some w => (.ok entries.length, w)
      | none => (.error .unsettled, written)

/-- Writes the cells of a file, if it is not too large. -/
def loadFile (steps : Nat) (w : Workbook) (path : String) (content : TextFile.Content)
    (order : Enumeration := .sorted) : Except Failure Nat × Workbook :=
  match TextFile.read .sheet path w.settings.maxFileBytes content with
  | .ok text => w.load steps text order
  | .error e => (.error e, w)

end Spreadsheet.Workbook
