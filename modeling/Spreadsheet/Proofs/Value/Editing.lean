import Mathlib
import Spreadsheet.Proofs.Number.Shortest
import Spreadsheet.Proofs.Number.Significant
import Spreadsheet.Proofs.Text.Characters
import Spreadsheet.Proofs.Text.Input
import Spreadsheet.Proofs.Value.Same

/-!
# `Proofs/Value/Editing.lean` — an input that is edited and left as it is

A cell is opened with the text that its input is written as, and when it is left the text is
classified again. Texts, truth values and formulas come out as they were. Numbers come out as they
were if some numeral of at most fifteen digits is enough for them, and not otherwise
(`editing_keeps_input`): the text of a number is rounded to fifteen digits first, and what is
written is then read back exactly.

The last step is where numbers differ from everything else: they are written with fifteen digits,
and so what is read back is the same number exactly if fifteen digits are enough for it.
-/

set_option autoImplicit false

namespace Spreadsheet.Input

/-- Whether two inputs are the same, numbers as far as they are equal. -/
def same : Input → Input → Bool
  | .literal s, .literal t => s.same t
  | .formula s, .formula t => s == t
  | _, _ => false

variable {x : Float}

/-! ## Numbers -/

/-- The text of a finite number is typed as that number. -/
theorem classify_text (finite : x.isFinite = true) :
    classify (Decimal.text x) = .literal (.number x) := by
  have plain : ∀ c ∈ (Decimal.text x).toList, Text.isBlank c = false ∧ c ≠ '=' ∧ c ≠ '"' := by
    intro c hc
    rcases Decimal.plain_text finite c hc with digit | rfl | rfl
    · refine ⟨Text.visible_of_isNameChar
        (Text.isNameChar_of_isAlphanum (Text.isAlphanum_of_isDigit digit)), ?_, ?_⟩ <;>
        rintro rfl <;> cases digit
    · decide
    · decide
  refine classify_number (fun c hc => plain c (List.mem_of_mem_head? hc)) ?_
    (Decimal.number?_text finite) finite
  exact Text.stopsAt_of_forall fun c hc => (plain c (List.mem_reverse.1 hc)).1

/-- The text of a number that is not finite is typed as a text. -/
theorem classify_text_of_infinite (infinite : x.isFinite = false) :
    ∃ s, classify (Decimal.text x) = .literal (.text s) := by
  have none : Decimal.Binary.ofFloat? x = none := by
    unfold Decimal.Binary.ofFloat?
    rw [infinite]
    rfl
  unfold Decimal.text
  rw [none]
  dsimp only
  split
  · exact ⟨"-inf", rfl⟩
  split
  · exact ⟨"inf", rfl⟩
  · exact ⟨"NaN", rfl⟩

/-- A number is typed again as an equal one if fifteen digits are enough for it. -/
theorem same_write_number (finite : x.isFinite = true) :
    (classify (write (.literal (.number x)))).same (.literal (.number x)) = true ↔
    Decimal.Short x := by
  show (classify (if x == 0.0 then "0" else Decimal.text (Decimal.denoised x))).same _ = true ↔ _
  split
  next zero =>
    have typed : classify "0" = .literal (.number 0.0) := rfl
    have short : Decimal.Short x := by
      rcases Binary64.near_of_beq zero with rfl | ⟨rfl | rfl, -⟩
      · exact ⟨⟨0, 0⟩, by decide, .inl rfl⟩
      · exact ⟨⟨0, 0⟩, by decide, .inl rfl⟩
      · exact ⟨⟨0, 0⟩, by decide, .inr rfl⟩
    rw [typed]
    exact iff_of_true (BEq.symm zero) short
  next nonzero =>
    rw [← Decimal.denoised_eq_self_iff finite]
    cases kept : (Decimal.denoised x).isFinite with
    | true =>
      rw [classify_text kept]
      show (Decimal.denoised x == x) = true ↔ _
      constructor
      · intro equal
        exact ((Binary64.near_of_beq (BEq.symm equal)).eq_of_ne (Bool.eq_false_iff.2 nonzero)).symm
      · intro equal
        rw [equal]
        exact Binary64.beq_self_of_isFinite finite
    | false =>
      obtain ⟨s, typed⟩ := classify_text_of_infinite kept
      rw [typed]
      refine iff_of_false Bool.false_ne_true fun equal => ?_
      rw [equal, finite] at kept
      cases kept

/-! ## All inputs -/

/-- **An input that is edited and left as it is stays the same, unless it is a number that needs
more than fifteen digits.** Such a number is rounded to fifteen digits when it is opened, and is
another one when it is left. -/
theorem editing_keeps_input (s : String) : (classify (classify s).write).same (classify s) = true ↔
    ∀ x, classify s = .literal (.number x) → Decimal.Short x := by
  cases h : classify s with
  | formula source =>
    rw [classify_write_formula h]
    simp [same]
  | literal value =>
    cases value with
    | number x =>
      rw [same_write_number (isFinite_of_classify h)]
      simp
    | text t =>
      rw [classify_write_text]
      simp [same, Scalar.same]
    | bool b =>
      rw [classify_write_bool]
      simp [same, Scalar.same]
    | blank =>
      have typed : classify (write (.literal .blank)) = .literal .blank := rfl
      rw [typed]
      simp [same, Scalar.same]

/-- Seventeen digits are too many. -/
theorem editing_can_change_numbers :
    (classify (classify "0.30000000000000004").write).same (classify "0.30000000000000004") =
    false := by
  decide +kernel

end Spreadsheet.Input
