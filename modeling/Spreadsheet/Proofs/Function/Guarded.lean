import Mathlib
import Spreadsheet.Proofs.Address.Rectangle
import Spreadsheet.Proofs.Value.Finite

/-!
# `Proofs/Function/Guarded.lean` — computations that get stuck where a position leaves its range

A position counts from one and has one taken off before it is used, and the entries of a block are
kept in one list, row by row, so that a row and a column make up a place in that list. Here both
are done in such a way that nothing is done when the position is zero or the place is not there:
the computation gets stuck (`Guarded`). Within the bounds of a block it does not, and what is
taken out of the list is the entry, the row or the column (`entryAt_eq`, `rowAt_eq`,
`columnAt_eq`).
-/

set_option autoImplicit false

namespace Spreadsheet

/-! ## Computations that may get stuck -/

/-- A computation that may end in an error, and that may get stuck. -/
abbrev Guarded (α : Type) := ExceptT ErrorCode Option α

namespace Guarded

variable {α β : Type} {n : ℕ}

/-- Nothing more can be done. -/
def stuck : Guarded α := ExceptT.mk none

/-- An outcome, be it an error. -/
def of (r : Except ErrorCode α) : Guarded α := ExceptT.mk (some r)

/-- Something that must be there. -/
def require : Option α → Guarded α
  | some a => pure a
  | none => stuck

/-- A position as the number of what comes before, which must not be less than nothing. -/
def oneLess : ℕ → Guarded ℕ
  | 0 => stuck
  | n + 1 => pure n

/-- A computation does not get stuck if what comes after its first step does not. -/
theorem of_bind {r : Except ErrorCode α} {f : α → Guarded β} {g : α → Except ErrorCode β}
    (same : ∀ a, r = .ok a → f a = of (g a)) : (of r >>= f) = of (r >>= g) := by
  cases r with
  | error e => rfl
  | ok a => exact same a rfl

theorem oneLess_of_pos (pos : 0 < n) : oneLess n = pure (n - 1) := by
  obtain ⟨n, rfl⟩ := Nat.exists_eq_add_one.2 pos
  rfl

end Guarded

open Guarded

/-! ## Tables -/

namespace Block

variable {α : Type} {b : Block α}

/-- An entry, taken from the list of all entries. -/
def entryAt (b : Block α) (i j : ℕ) : Guarded α :=
  if i < b.rows ∧ j < b.columns then require b.cells[i * b.columns + j]? else stuck

/-- The entries of a row, cut out of the list of all entries. -/
def rowAt (b : Block α) (i : ℕ) : Guarded (List α) :=
  if i < b.rows ∧ (i + 1) * b.columns ≤ b.cells.length then
    pure ((b.cells.drop (i * b.columns)).take ((i + 1) * b.columns - i * b.columns))
  else stuck

/-- The entries of a column, one taken from every row. -/
def columnAt (b : Block α) (j : ℕ) : Guarded (List α) :=
  if j < b.columns then (List.range b.rows).mapM fun i => require b.cells[i * b.columns + j]?
    else stuck

/-- Row by row, an entry comes after all rows before its own. -/
theorem getElem?_cells (b : Block α) (i : Fin b.rows) (j : Fin b.columns) :
    b.cells[i.val * b.columns + j.val]? = some (b.entry i j) := by
  let f (k : Fin (b.rows * b.columns)) : α :=
    b.entry (finProdFinEquiv.symm k).1 (finProdFinEquiv.symm k).2
  have entries (i : Fin b.rows) (j : Fin b.columns) :
    f ⟨i.val * b.columns + j.val, index_lt i j⟩ = b.entry i j := by
    -- The library pairs indices the other way round, hence the two commutations.
    have place : (⟨i.val * b.columns + j.val, index_lt i j⟩ : Fin (b.rows * b.columns)) =
      finProdFinEquiv (i, j) :=
      Fin.ext ((Nat.add_comm _ _).trans (congrArg _ (Nat.mul_comm _ _)))
    show b.entry (finProdFinEquiv.symm _).1 (finProdFinEquiv.symm _).2 = _
    rw [place, Equiv.symm_apply_apply]
  have cells : b.cells = List.ofFn f := by
    rw [List.ofFn_mul]
    simp only [entries]
    rfl
  rw [cells, List.getElem?_ofFn, dif_pos (index_lt i j), entries]

theorem entryAt_eq (i : Fin b.rows) (j : Fin b.columns) : b.entryAt i j = pure (b.entry i j) := by
  rw [entryAt, if_pos ⟨i.isLt, j.isLt⟩, getElem?_cells]
  rfl

theorem rowAt_eq (i : Fin b.rows) : b.rowAt i = pure (b.row i) := by
  have last : (i + 1) * b.columns ≤ b.cells.length := by
    rw [length_cells]
    exact Nat.mul_le_mul_right _ i.isLt
  have size : (i + 1) * b.columns - i * b.columns = b.columns := by
    rw [Nat.succ_mul, Nat.add_sub_cancel_left]
  rw [rowAt, if_pos ⟨i.isLt, last⟩, size]
  congr 1
  refine List.ext_getElem? fun k => ?_
  rw [List.getElem?_take, List.getElem?_drop, row, List.getElem?_ofFn]
  by_cases within : k < b.columns
  · rw [if_pos within, dif_pos within]
    exact getElem?_cells b i ⟨k, within⟩
  · rw [if_neg within, dif_neg within]

theorem columnAt_eq (j : Fin b.columns) : b.columnAt j = pure (b.column j) := by
  rw [columnAt, if_pos j.isLt, column, List.ofFn_eq_map, ← List.mapM_pure,
    ← List.map_coe_finRange_eq_range, List.mapM_map]
  congr 1
  funext i
  show require b.cells[i.val * b.columns + j]? = _
  rw [getElem?_cells]
  rfl

/-- One column is the block of its entries. -/
theorem ofCells?_column (j : Fin b.columns) :
    ofCells? (b.column j).length 1 (b.column j) = some (b.columnBlock j) := by
  rw [column, List.length_ofFn]
  refine ofCells?_eq_some _ (by rw [List.length_ofFn, Nat.mul_one]) fun i k => ?_
  rw [Fin.fin_one_eq_zero k, Nat.mul_one]
  exact (List.getElem?_ofFn).trans (dif_pos i.isLt)

/-- One row is the block of its entries. -/
theorem ofCells?_row (i : Fin b.rows) :
    ofCells? 1 (b.row i).length (b.row i) = some (b.rowBlock i) := by
  rw [row, List.length_ofFn]
  refine ofCells?_eq_some _ (by rw [List.length_ofFn, Nat.one_mul]) fun k j => ?_
  rw [Fin.fin_one_eq_zero k, Fin.val_zero, Nat.zero_mul, Nat.zero_add]
  exact (List.getElem?_ofFn).trans (dif_pos j.isLt)

end Block

end Spreadsheet
