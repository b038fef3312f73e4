import Mathlib.Data.List.Basic
import Spreadsheet.Evaluation
import Spreadsheet.Proofs.Address.ReadBack

/-!
# `Proofs/Address/Rectangle.lean` — what two corners span, and reading it

Two corners may be given in any order, and rows and columns are put in order apart from each
other, so a corner of the range need not be one of those that were given. What stays together is a
number and the dollar sign before it (`Spans`).

The positions of a rectangle are listed row by row, and a list that long is cut into rows again by
counting: the entry in row `i` and column `j` is number `i * columns + j` (`getElem?_positions`).
That a block of the values can be put together from the list, and is the block that evaluation
reads entry by entry, is this equation and nothing else.
-/

set_option autoImplicit false

namespace Spreadsheet

theorem Position.compare_eq_lt_iff {p q : Position} :
    compare p q = .lt ↔ p.row < q.row ∨ p.row = q.row ∧ p.column < q.column := by
  show compareLex (compareOn Position.row) (compareOn Position.column) p q = .lt ↔ _
  simp only [compareLex, Ordering.then_eq_lt, compareOn, Nat.compare_eq_lt, Nat.compare_eq_eq]

namespace Range

variable {a b : Address} {r : Range}

/-! ## Two corners -/

/-- A range is the one that two addresses are opposite corners of. -/
structure Spans (a b : Address) (r : Range) : Prop where
  normalized : r.Normalized
  /-- The row numbers are those of the corners, each with its dollar sign. -/
  rows : [(r.first.row, r.first.rowFixed), (r.last.row, r.last.rowFixed)].Perm
    [(a.row, a.rowFixed), (b.row, b.rowFixed)]
  columns : [(r.first.column, r.first.columnFixed), (r.last.column, r.last.columnFixed)].Perm
    [(a.column, a.columnFixed), (b.column, b.columnFixed)]
  sheet : r.sheet = a.sheet.or b.sheet

theorem exists_spans (agree : ∀ x ∈ a.sheet, ∀ y ∈ b.sheet, Text.sameName x y = true) :
    ∃ r, ofCorners? a b = some r ∧ Spans a b r := by
  refine ⟨_, Option.map_eq_some_iff.2 ⟨a.sheet.or b.sheet, ?_, rfl⟩, ?_⟩
  · cases hx : a.sheet <;> cases hy : b.sheet
    case some.some x y => exact if_pos (agree x hx y hy)
    all_goals rfl
  by_cases rows : a.row ≤ b.row <;> by_cases columns : a.column ≤ b.column
  all_goals simp only [rows, columns, if_true, if_false]
  · exact ⟨⟨rows, columns, rfl⟩, .refl _, .refl _, rfl⟩
  · exact ⟨⟨rows, Nat.le_of_not_le columns, rfl⟩, .refl _, .swap _ _ _, rfl⟩
  · exact ⟨⟨Nat.le_of_not_le rows, columns, rfl⟩, .swap _ _ _, .refl _, rfl⟩
  · exact ⟨⟨Nat.le_of_not_le rows, Nat.le_of_not_le columns, rfl⟩, .swap _ _ _, .swap _ _ _, rfl⟩

theorem Spans.last_lt (spans : Spans a b r) {rowLimit columnLimit : Nat}
    (rows : a.row < rowLimit ∧ b.row < rowLimit)
    (columns : a.column < columnLimit ∧ b.column < columnLimit) :
    r.last.row < rowLimit ∧ r.last.column < columnLimit := by
  have row : (r.last.row, r.last.rowFixed) ∈ [(a.row, a.rowFixed), (b.row, b.rowFixed)] :=
    spans.rows.subset (by simp)
  have column : (r.last.column, r.last.columnFixed) ∈
    [(a.column, a.columnFixed), (b.column, b.columnFixed)] :=
    spans.columns.subset (by simp)
  simp only [List.mem_cons, List.not_mem_nil, or_false, Prod.mk.injEq] at row column
  constructor
  · rcases row with ⟨same, -⟩ | ⟨same, -⟩ <;> omega
  · rcases column with ⟨same, -⟩ | ⟨same, -⟩ <;> omega

/-! ## Its positions -/

theorem getElem?_flatMap_range {α : Type} (f : Nat → Nat → α) {rows columns i j : Nat}
    (hi : i < rows) (hj : j < columns) :
    ((List.range rows).flatMap fun i => (List.range columns).map (f i))[i * columns + j]? =
    some (f i j) := by
  induction rows with
  | zero => cases hi
  | succ rows ih =>
    -- The rows before the last take up `rows * columns` places, so the last one starts there.
    have length : ((List.range rows).flatMap fun i => (List.range columns).map (f i)).length =
      rows * columns := by
      simp [List.length_flatMap]
    rw [List.range_succ, List.flatMap_append]
    obtain lt | rfl := Nat.lt_succ_iff_lt_or_eq.1 hi
    · have inside := Block.index_lt ⟨i, lt⟩ ⟨j, hj⟩
      rw [List.getElem?_append_left (by rw [length]; exact inside), ih lt]
    · rw [List.getElem?_append_right (by rw [length]; omega), length]
      simp [hj]

theorem length_positions (r : Range) : r.positions.length = r.rows * r.columns := by
  simp [positions, List.length_flatMap]

/-- The list of positions goes row by row. -/
theorem getElem?_positions {i j : Nat} (hi : i < r.rows) (hj : j < r.columns) :
    r.positions[i * r.columns + j]? = some (r.offset i j) :=
  getElem?_flatMap_range r.offset hi hj

theorem mem_positions {p : Position} :
    p ∈ r.positions ↔ ∃ i < r.rows, ∃ j < r.columns, r.offset i j = p := by
  simp [positions]

theorem positions_ordered (r : Range) : r.positions.Pairwise fun p q => compare p q = .lt := by
  unfold positions
  refine List.pairwise_flatMap.2 ⟨fun i _ => List.pairwise_map.2 ?_, ?_⟩
  · refine List.pairwise_lt_range.imp fun lt => ?_
    exact Position.compare_eq_lt_iff.2 (.inr ⟨rfl, Nat.add_lt_add_left lt _⟩)
  · refine List.pairwise_lt_range.imp fun lt => ?_
    simp only [List.mem_map]
    rintro _ ⟨j, -, rfl⟩ _ ⟨j', -, rfl⟩
    exact Position.compare_eq_lt_iff.2 (.inl (Nat.add_lt_add_left lt _))

/-- The positions of a range are those of a rectangle. -/
structure Lists (r : Range) : Prop where
  mem : ∀ p, p ∈ r.positions ↔
    (r.first.row ≤ p.row ∧ p.row ≤ r.last.row) ∧ r.first.column ≤ p.column ∧
    p.column ≤ r.last.column
  nodup : r.positions.Nodup
  ordered : r.positions.Pairwise fun p q => compare p q = .lt
  size : r.size? = some r.positions.length

theorem Normalized.lists (normalized : r.Normalized) (rows : r.last.row < Address.rowLimit)
    (columns : r.last.column < Address.columnLimit) : r.Lists where
  mem p := by
    obtain ⟨ordered, ordered', -⟩ := normalized
    rw [mem_positions]
    constructor
    · rintro ⟨i, hi, j, hj, rfl⟩
      unfold Range.rows at hi
      unfold Range.columns at hj
      simp only [offset]
      omega
    · rintro ⟨⟨above, below⟩, left, right⟩
      refine ⟨p.row - r.first.row, ?_, p.column - r.first.column, ?_, ?_⟩
      · unfold Range.rows
        omega
      · unfold Range.columns
        omega
      · simp only [offset, Nat.add_sub_cancel' above, Nat.add_sub_cancel' left]
  nodup := r.positions_ordered.imp fun {p q} lt same => by
    rw [Position.compare_eq_eq_iff.2 same] at lt
    cases lt
  ordered := r.positions_ordered
  size := by
    have height : r.rows ≤ Address.rowLimit := by
      unfold Range.rows
      omega
    have width : r.columns ≤ Address.columnLimit := by
      unfold Range.columns
      omega
    -- Within the limits the number of positions does not overflow.
    have small : r.rows * r.columns < countLimit :=
      Nat.lt_of_le_of_lt (Nat.mul_le_mul height width) (by decide)
    rw [size?, if_pos small, length_positions]

end Range

/-! ## Its values -/

/-- A list of entries row by row is cut into the block that has them. -/
theorem Block.ofCells?_eq_some {α : Type} {cells : List α} {rows columns : Nat}
    (entry : Fin rows → Fin columns → α) (length : cells.length = rows * columns)
    (entries : ∀ i j, cells[i.val * columns + j.val]? = some (entry i j)) :
    Block.ofCells? rows columns cells = some ⟨rows, columns, entry⟩ := by
  unfold Block.ofCells?
  dsimp only
  rw [dif_pos (by simpa using length)]
  congr 2
  funext i j
  have found := entries i j
  rw [List.getElem?_eq_some_iff] at found
  simpa using found.2

/-- A range on a sheet that there is, and within the limit, is read as a block, entry by entry. -/
theorem Environment.eval_range (env : Environment) {r : Range}
    (sheet : env.cells.hasSheet r.sheet = true) (size : r.size? = some r.positions.length)
    (limit : r.positions.length ≤ env.maxRangeCells) (calls : CallCounts) :
    (Expr.range r).eval env calls =
      (.block ⟨r.rows, r.columns, fun i j => env.cells.value (r.addressAt (r.offset i j))⟩,
        calls) := by
  have admitted : admitsRange env.maxRangeCells r = true := by
    rw [admitsRange, size]
    exact decide_eq_true limit
  show (env.range r, calls) = _
  rw [Environment.range, sheet, admitted]
  rfl

namespace Range

/-- **Ranges are normalized and read completely.** A normalized range is the one that its corners
span. Two corners within the limits that do not name two different sheets span a range, and the
numbers of rows and columns keep their dollar signs on the way. Its positions are those of the
rectangle, each of them once and row by row. Where the sheet exists and the range is not too
large, it is read as a block: the values at the positions, one behind the other, always make up a
block, and its entries are the values of the cells that far below and to the right of the first
corner. -/
theorem read_completely {a b : Address} (rows : a.row < Address.rowLimit ∧ b.row < Address.rowLimit)
    (columns : a.column < Address.columnLimit ∧ b.column < Address.columnLimit)
    (agree : ∀ x ∈ a.sheet, ∀ y ∈ b.sheet, Text.sameName x y = true) :
    (∀ r : Range, r.Normalized → ofCorners? r.first r.last = some r) ∧
      ∃ r, ofCorners? a b = some r ∧ Spans a b r ∧ r.Lists ∧
        ∀ env : Environment, env.cells.hasSheet r.sheet = true →
          r.positions.length ≤ env.maxRangeCells →
          ∃ block : Block Value, (∀ calls, (Expr.range r).eval env calls = (.block block, calls)) ∧
            Block.ofCells? r.rows r.columns
            (r.positions.map fun p => env.cells.value (r.addressAt p)) = some block ∧
            block.rows = r.rows ∧ block.columns = r.columns ∧ ∀ i < r.rows, ∀ j < r.columns,
            block.get? i j =
              some (env.cells.value ⟨r.sheet, r.first.row + i, r.first.column + j, false,
                false⟩) := by
  obtain ⟨r, spanned, spans⟩ := exists_spans agree
  obtain ⟨row, column⟩ := spans.last_lt rows columns
  have lists := spans.normalized.lists row column
  refine ⟨fun r => ofCorners?_of_normalized, r, spanned, spans, lists, fun env sheet limit => ?_⟩
  refine ⟨_, env.eval_range sheet lists.size limit, Block.ofCells?_eq_some _ ?_ fun i j => ?_,
    rfl, rfl, ?_⟩
  · rw [List.length_map, length_positions]
  · rw [List.getElem?_map, getElem?_positions i.isLt j.isLt, Option.map_some]
  · intro i hi j hj
    exact dif_pos ⟨hi, hj⟩

/-- The bottom left and the top right corner, with a dollar sign at each, one of them on a sheet
spelled otherwise. -/
theorem read_completely_of_turned :
    let a : Address := ⟨some "Data", 8, 0, false, true⟩
    let b : Address := ⟨some "DATA", 4, 2, true, false⟩
    let r : Range := ⟨⟨some "Data", 4, 0, true, true⟩, ⟨none, 8, 2, false, false⟩⟩
    let env : Environment :=
      ⟨⟨fun a => .text a.text, fun _ => false, fun _ => true⟩, .empty, ⟨⟨2000, 1, 1⟩, 0⟩, 0, 15⟩
    ofCorners? a b = some r ∧ Spans a b r ∧ r.Lists ∧ r.size? = some 15 ∧ ∃ block : Block Value,
      (∀ calls, (Expr.range r).eval env calls = (.block block, calls)) ∧ block.rows = 5 ∧
      block.columns = 3 ∧
      block.get? 1 2 = some (.text "Data!C6") := by
  intro a b r env
  obtain ⟨-, r', spanned, spans, lists, read⟩ :=
    read_completely (a := a) (b := b) (by decide) (by decide) (by
      intro x hx y hy
      cases hx
      cases hy
      decide)
  have same : ofCorners? a b = some r := by decide
  cases spanned.symm.trans same
  obtain ⟨block, evaluated, -, rows, columns, entries⟩ := read env rfl (by decide)
  have name : (⟨some "Data", 5, 2, false, false⟩ : Address).text = "Data!C6" := by decide +kernel
  exact ⟨spanned, spans, lists, by decide, block, evaluated, rows, columns,
    name ▸ entries 1 (by decide) 2 (by decide)⟩

end Range

end Spreadsheet
