import Mathlib
import Spreadsheet.Proofs.Function.Lookup
import Spreadsheet.Proofs.Text.Glob
import Spreadsheet.Proofs.Value.Finite

/-!
# `Proofs/Function/Criterion.lean` — criteria part the cells of a range

A criterion's text is a comparison and an operand, and behind a comparison the operand is read in
one way whatever the comparison is (`splitComparison_sign`). So what six criteria on one operand
say of a cell rests on one fact, how the cell stands to the operand, if it stands to it in some
order at all (`meets_eq`). Only equality and its opposite heed wildcards, and there the one is
still the other's opposite (`meets_notEqual`).

The operand may not start with a sign that would belong to the comparison in front of it
(`IsOperand`): behind `<` an operand `=x` would be read as part of `<=`.
-/

set_option autoImplicit false

namespace Spreadsheet

/-- How a comparison is written in front of an operand. -/
def Comparison.sign : Comparison → String
  | .equal => "="
  | .notEqual => "<>"
  | .less => "<"
  | .lessEqual => "<="
  | .greater => ">"
  | .greaterEqual => ">="

namespace Criterion

open Argument Lookup
open Text.Glob (IsWild)

/-- Whether a text can stand behind every comparison without becoming a part of it. -/
def IsOperand (x : String) : Prop := x.toList.head? ≠ some '=' ∧ x.toList.head? ≠ some '>'

/-- Whether a cell satisfies the criterion that a comparison and an operand spell. -/
def meets (engine : Regex.Engine) (op : Comparison) (x : String) (cell : Value) : Bool :=
  (ofText engine (op.sign ++ x)).isMet cell

variable {engine : Regex.Engine} {x : String} {op : Comparison} {cell : Value}

/-! ## Reading criteria -/

/-- What stands behind a comparison is all of the operand. -/
theorem splitComparison_sign (op : Comparison) (operand : IsOperand x) :
    splitComparison (op.sign ++ x).toList = (op, x.toList) := by
  rw [String.toList_append]
  unfold IsOperand at operand
  generalize x.toList = s at operand
  cases op with
  | equal => rfl
  | notEqual => rfl
  | lessEqual => rfl
  | greaterEqual => rfl
  | less =>
    cases s with
    | nil => rfl
    | cons c s =>
      -- The longer comparisons are tried first, and the operand does not start like their second
      -- character.
      obtain ⟨equals, greater⟩ := operand
      show splitComparison ('<' :: c :: s) = _
      rw [splitComparison]
      · exact fun _ same => equals (congrArg some (List.cons.inj same).1)
      · exact fun _ same => greater (congrArg some (List.cons.inj same).1)
  | greater =>
    cases s with
    | nil => rfl
    | cons c s =>
      obtain ⟨equals, -⟩ := operand
      show splitComparison ('>' :: c :: s) = _
      rw [splitComparison]
      exact fun _ same => equals (congrArg some (List.cons.inj same).1)

/-- Where a comparison heeds wildcards and the operand spells a test, it is the test that counts. -/
theorem ofText_of_some {s rest : String} {test : String → Bool}
    (split : splitComparison s.toList = (op, rest.toList)) (level : op = .equal ∨ op = .notEqual)
    (wild : Text.Glob.ofText? engine rest = some test) :
    ofText engine s = .pattern test (op = .notEqual) := by
  unfold ofText
  rw [split]
  dsimp only
  rw [String.ofList_toList, if_pos level, wild]

/-- Otherwise the operand is compared. -/
theorem ofText_of_none {s rest : String} (split : splitComparison s.toList = (op, rest.toList))
    (plain : op = .equal ∨ op = .notEqual → Text.Glob.ofText? engine rest = none) :
    ofText engine s = .compare op (operand rest) := by
  have spelled : (if op = .equal ∨ op = .notEqual then Text.Glob.ofText? engine rest else none) =
      none := by
    split_ifs with level
    · exact plain level
    · rfl
  unfold ofText
  rw [split]
  dsimp only
  rw [String.ofList_toList, spelled]

/-- Without a wildcard in the operand a criterion compares, whatever the comparison. -/
theorem meets_eq (engine : Regex.Engine) (operand : IsOperand x) (plain : ¬ IsWild x.toList)
    (op : Comparison) (cell : Value) :
    meets engine op x cell = op.holds (order cell (Criterion.operand x)) := by
  have literal : Text.Glob.ofText? engine x = none := by
    rw [Text.Glob.ofText?_eq, if_neg plain]
  unfold meets
  rw [ofText_of_none (splitComparison_sign op operand) fun _ => literal]
  rfl

/-- A cell satisfies the opposite of equality just if it does not satisfy equality, with wildcards
and without. -/
theorem meets_notEqual (engine : Regex.Engine) (operand : IsOperand x) (cell : Value) :
    meets engine .notEqual x cell = !meets engine .equal x cell := by
  have equal := splitComparison_sign .equal operand
  have notEqual := splitComparison_sign .notEqual operand
  unfold meets
  cases spelled : Text.Glob.ofText? engine x with
  | some test =>
    rw [ofText_of_some notEqual (.inr rfl) spelled, ofText_of_some equal (.inl rfl) spelled]
    show (fits test cell != true) = !(fits test cell != false)
    cases fits test cell <;> rfl
  | none =>
    rw [ofText_of_none notEqual fun _ => spelled, ofText_of_none equal fun _ => spelled]
    rfl

/-! ## Counting -/

/-- What `COUNTIF` makes of a block and a criterion's text. -/
theorem answers_countIf (engine : Regex.Engine) (cells : Block Value) (s : String) :
    Answers engine "COUNTIF" [.block cells, .text s]
    (.number (Float.ofNat (cells.cells.countP (ofText engine s).isMet))) := by
  have library : (Registry.library engine).find? "COUNTIF" =
    some (.ofArguments "COUNTIF" (.exactly 2) .lookup (countIf engine)) :=
    find?_library (by simp [Function.library, functions]) rfl
  exact answers library rfl

/-- **Criteria part a range.** Every cell satisfies just one of `=x` and `<>x`. If the operand has
no wildcard, then the cell either stands in an order to it, and satisfies just one of `<x`, `=x`
and `>x`, and `<=x` and `>=x` as these say, or in none, and satisfies `<>x` alone. So the counts
of the cells equal and unequal make up the range. -/
theorem criteria_part_cells (engine : Regex.Engine) (operand : IsOperand x) :
    (∀ cell, [Comparison.equal, .notEqual].countP (meets engine · x cell) = 1) ∧
    (¬ IsWild x.toList → ∀ cell,
      [Comparison.less, .equal, .greater].countP (meets engine · x cell) = 1 ∧
        (meets engine .lessEqual x cell ↔ meets engine .less x cell ∨ meets engine .equal x cell) ∧
        (meets engine .greaterEqual x cell ↔
          meets engine .greater x cell ∨ meets engine .equal x cell) ∨
      (∀ op ∈ [Comparison.less, .lessEqual, .equal, .greater, .greaterEqual],
        ¬ meets engine op x cell) ∧ meets engine .notEqual x cell) ∧
    ∀ cells : Block Value, ∃ m n : ℕ,
      Answers engine "COUNTIF" [.block cells, .text ("=" ++ x)] (.number (Float.ofNat m)) ∧
      Answers engine "COUNTIF" [.block cells, .text ("<>" ++ x)] (.number (Float.ofNat n)) ∧
      m + n = cells.rows * cells.columns := by
  refine ⟨fun cell => ?_, fun plain cell => ?_, fun cells => ?_⟩
  · simp only [List.countP_cons, List.countP_nil, meets_notEqual engine operand]
    cases meets engine .equal x cell <;> rfl
  · simp only [meets_eq engine operand plain]
    -- If there is no order only `<>` is satisfied; otherwise the order settles all six.
    cases order cell (Criterion.operand x) with
    | none => exact .inr (by decide)
    | some standing =>
      left
      cases standing <;> decide
  · refine ⟨_, _, answers_countIf engine cells _, answers_countIf engine cells _, ?_⟩
    have opposite : (ofText engine ("<>" ++ x)).isMet = fun cell =>
      !(ofText engine ("=" ++ x)).isMet cell := funext (meets_notEqual engine operand)
    rw [opposite, ← Block.length_cells,
      List.length_eq_countP_add_countP (ofText engine ("=" ++ x)).isMet]
    simp

/-- The criteria on a number. -/
theorem criteria_part_cells_of_ten :
    IsOperand "10" ∧ ¬ IsWild "10".toList ∧
    (∀ cell, [Comparison.equal, .notEqual].countP (meets .standard · "10" cell) = 1) ∧
    (∀ cell,
      [Comparison.less, .equal, .greater].countP (meets .standard · "10" cell) = 1 ∧
        (meets .standard .lessEqual "10" cell ↔
          meets .standard .less "10" cell ∨ meets .standard .equal "10" cell) ∧
        (meets .standard .greaterEqual "10" cell ↔
          meets .standard .greater "10" cell ∨ meets .standard .equal "10" cell) ∨
      (∀ op ∈ [Comparison.less, .lessEqual, .equal, .greater, .greaterEqual],
          ¬ meets .standard op "10" cell) ∧
        meets .standard .notEqual "10" cell) ∧
    ∀ cells : Block Value, ∃ m n : ℕ,
      Answers .standard "COUNTIF" [.block cells, .text "=10"] (.number (Float.ofNat m)) ∧
      Answers .standard "COUNTIF" [.block cells, .text "<>10"] (.number (Float.ofNat n)) ∧
      m + n = cells.rows * cells.columns := by
  have operand : IsOperand "10" := ⟨by decide, by decide⟩
  have plain : ¬ IsWild "10".toList := by decide
  obtain ⟨opposite, order, count⟩ := criteria_part_cells .standard operand
  exact ⟨operand, plain, opposite, order plain, count⟩

end Criterion

end Spreadsheet
