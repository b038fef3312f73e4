/-!
# `Address/Position.lean` — where a cell stands on its sheet

Rows and columns count from zero. Positions are ordered row by row and within a row from left to
right, the order in which blocks are read and sheets are listed.
-/

set_option autoImplicit false

namespace Spreadsheet

/-- A cell's place on its sheet. -/
structure Position where
  row : Nat
  column : Nat
  deriving DecidableEq, Repr

namespace Position

instance : Ord Position where
  compare := compareLex (compareOn Position.row) (compareOn Position.column)

instance : Std.TransOrd Position :=
  inferInstanceAs (Std.TransCmp (compareLex (compareOn Position.row) (compareOn Position.column)))

theorem compare_eq_eq_iff {p q : Position} : compare p q = .eq ↔ p = q := by
  show compareLex (compareOn Position.row) (compareOn Position.column) p q = .eq ↔ p = q
  rw [compareLex_eq_eq]
  cases p
  cases q
  simp [compareOn]

instance : Std.LawfulEqOrd Position where
  eq_of_compare := compare_eq_eq_iff.1

end Position

end Spreadsheet
