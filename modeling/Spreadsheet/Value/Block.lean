/-!
# `Value/Block.lean` — rectangular blocks

A block has a size and an entry for each place inside it, and that is all it is: there is no way
to hold too few entries or to name one that is not there. Blocks may have no rows or no columns.
Written as a list, a block goes row by row.
-/

set_option autoImplicit false

namespace Spreadsheet

/-- A rectangle of entries. -/
structure Block (α : Type) where
  rows : Nat
  columns : Nat
  entry : Fin rows → Fin columns → α

namespace Block

variable {α : Type}

/-- The block of one entry. -/
def single (a : α) : Block α := ⟨1, 1, fun _ _ => a⟩

/-- The entries of a row, from left to right. -/
def row (b : Block α) (i : Fin b.rows) : List α := List.ofFn fun j => b.entry i j

/-- The entries of a column, from top to bottom. -/
def column (b : Block α) (j : Fin b.columns) : List α := List.ofFn fun i => b.entry i j

/-- All entries, row by row. -/
def cells (b : Block α) : List α := (List.ofFn b.row).flatten

/-- How many entries a block has. -/
def size (b : Block α) : Nat := b.rows * b.columns

/-- The block with rows and columns exchanged. -/
def transpose (b : Block α) : Block α := ⟨b.columns, b.rows, fun i j => b.entry j i⟩

/-- The entry at a place that may lie outside. -/
def get? (b : Block α) (i j : Nat) : Option α :=
  if h : i < b.rows ∧ j < b.columns then some (b.entry ⟨i, h.1⟩ ⟨j, h.2⟩) else none

/-- The row with a number that may be too large. -/
def row? (b : Block α) (i : Nat) : Option (List α) :=
  if h : i < b.rows then some (b.row ⟨i, h⟩) else none

/-- The column with a number that may be too large. -/
def column? (b : Block α) (j : Nat) : Option (List α) :=
  if h : j < b.columns then some (b.column ⟨j, h⟩) else none

/-- Whether a block is a single row or a single column. -/
def isVector (b : Block α) : Bool := b.rows == 1 || b.columns == 1

/-- The entries of a single row or a single column. -/
def vector? (b : Block α) : Option (List α) := if b.isVector then some b.cells else none

/-- One column as a block. -/
def columnBlock (b : Block α) (j : Fin b.columns) : Block α := ⟨b.rows, 1, fun i _ => b.entry i j⟩

/-- One row as a block. -/
def rowBlock (b : Block α) (i : Fin b.rows) : Block α := ⟨1, b.columns, fun _ j => b.entry i j⟩

/-! ## From lists -/

/-- Where the entry in row `i` and column `j` stands when a block is written row by row. -/
theorem index_lt {rows columns : Nat} (i : Fin rows) (j : Fin columns) :
    i.val * columns + j.val < rows * columns :=
  calc i.val * columns + j.val < i.val * columns + columns := by omega
    _ = (i.val + 1) * columns := by rw [Nat.succ_mul]
    _ ≤ rows * columns := Nat.mul_le_mul_right _ i.isLt

/-- The block with these entries, row by row, if their number is right. -/
def ofCells? (rows columns : Nat) (cells : List α) : Option (Block α) :=
  let entries := cells.toArray
  if h : entries.size = rows * columns then
    some ⟨rows, columns, fun i j =>
      have : i.val * columns + j.val < entries.size := h ▸ index_lt i j
      entries[i.val * columns + j.val]⟩
  else none

/-- The block with these rows, if all are equally long. -/
def ofRows? (rows : List (List α)) : Option (Block α) :=
  let columns := (rows.headD []).length
  if rows.all (·.length == columns) then ofCells? rows.length columns rows.flatten else none

end Block

end Spreadsheet
