import Spreadsheet.Evaluation

/-!
# `Grid.lean` — values without sheets

A grid holds values at positions and knows no sheets, so every reference that names one is
invalid. Empty values are not stored.
-/

set_option autoImplicit false

namespace Spreadsheet

/-- Values at positions. -/
structure Grid where
  cells : Std.ExtTreeMap Position Value

namespace Grid

def empty : Grid := ⟨∅⟩

/-- Puts a value at a position; an empty one takes away what is there. -/
def set (g : Grid) (p : Position) : Value → Grid
  | .blank => ⟨g.cells.erase p⟩
  | v => ⟨g.cells.insert p v⟩

/-- The value at a position. -/
def get (g : Grid) (p : Position) : Value := (g.cells[p]?).getD .blank

/-- How many values are stored. -/
def size (g : Grid) : Nat := g.cells.size

/-- A grid as formulas read it. -/
def reader (g : Grid) : CellReader where
  value a := if a.sheet.isSome then .error .badReference else g.get a.position
  isCleared _ := false
  hasSheet name := name.isNone

end Grid

end Spreadsheet
