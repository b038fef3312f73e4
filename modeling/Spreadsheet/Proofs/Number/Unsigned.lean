import Mathlib
import Spreadsheet.Decimal.Numeral

/-!
# `Proofs/Number/Unsigned.lean` — numerals without a sign spell numbers without one

The number that an unsigned numeral spells comes from a product or a quotient of numbers whose
sign is not set, and rounding leaves the sign alone (`unsigned_round`). So it is neither below
zero nor the negative zero.

This is needed where a formula is printed and read again: a numeral of a formula has no sign, the
sign before it being an operator, and so a literal of a parsed formula is printed without one. The
predicate is about the unpacked number, which has a case for everything that a number can be, so
that overflow, underflow and rounding are covered by the cases of the operations.
-/

set_option autoImplicit false

namespace Spreadsheet.Binary64

open Float.Model (UnpackedFloat)
open Float.Model.Format (binary64)

/-- The sign is not set. -/
def Unsigned : UnpackedFloat → Prop
  | .notANumber => True
  | .infinity s | .zero s | .finite s _ _ _ => s = .positive

variable {u v : UnpackedFloat} {x y : Float}

/-! ## Operations -/

theorem unsigned_round (m : Nat) (e : Int) (accuracy : UnpackedFloat.Accuracy) :
    Unsigned (UnpackedFloat.roundWithAccuracy binary64 .positive m e accuracy) := by
  unfold UnpackedFloat.roundWithAccuracy
  dsimp only
  split <;> exact rfl

theorem Unsigned.mul (hu : Unsigned u) (hv : Unsigned v) :
    Unsigned (UnpackedFloat.mul binary64 u v) := by
  cases u <;> cases v <;> simp only [Unsigned] at hu hv
  all_goals try subst hu
  all_goals try subst hv
  all_goals first
    | exact trivial
    | exact rfl
    | exact unsigned_round _ _ _

theorem Unsigned.div (hu : Unsigned u) (hv : Unsigned v) :
    Unsigned (UnpackedFloat.div binary64 u v) := by
  cases u <;> cases v <;> simp only [Unsigned] at hu hv
  all_goals try subst hu
  all_goals try subst hv
  all_goals first
    | exact trivial
    | exact rfl
    | exact unsigned_round _ _ _

theorem unsigned_ofScientific (m : Nat) (e : Int) :
    Unsigned (UnpackedFloat.ofScientific binary64 m e) := by
  unfold UnpackedFloat.ofScientific
  -- Zero, what is too small and what is too large are made directly, and the rest by one product
  -- or quotient.
  split
  · exact rfl
  split
  · exact rfl
  split
  · exact rfl
  split
  · exact Unsigned.mul rfl rfl
  · exact Unsigned.div rfl rfl

theorem unsigned_ofNat (n : Nat) : Unsigned (UnpackedFloat.ofNat binary64 n) := by
  unfold UnpackedFloat.ofNat UnpackedFloat.ofInt UnpackedFloat.normalize
  split
  next below =>
    simp only [compare, compareOfLessAndEq] at below
    split at below
    · omega
    · split at below <;> cases below
  next => exact rfl
  next => exact unsigned_round _ _ _

/-! ## Numbers -/

/-- A number whose sign is stored as not set. -/
theorem unsigned_unpack {bits : BitVec binary64.numBits}
    (h : UnpackedFloat.unpackSign bits = UnpackedFloat.Sign.positive.toBitVec) :
    Unsigned (UnpackedFloat.unpack binary64 bits) := by
  unfold UnpackedFloat.unpack
  simp only [h]
  split
  · split
    · exact rfl
    · exact trivial
  split
  · split
    · exact rfl
    · exact rfl
  · exact rfl

theorem Unsigned.pack (h : Unsigned u) : Unsigned (Float.Model.pack u).unpack := by
  apply unsigned_unpack
  show UnpackedFloat.unpackSign (UnpackedFloat.pack binary64 u) = _
  unfold UnpackedFloat.pack
  cases u with
  | notANumber => exact UnpackedFloat.unpackSign_packComponents _ _ _
  | infinity s | zero s =>
    cases h
    exact UnpackedFloat.unpackSign_packComponents _ _ _
  | finite s m e pos =>
    cases h
    dsimp only
    split
    · exact UnpackedFloat.unpackSign_packComponents _ _ _
    split
    · exact UnpackedFloat.unpackSign_packComponents _ _ _
    · exact UnpackedFloat.unpackSign_packComponents _ _ _

/-- A number whose sign is not set is neither below zero nor the negative zero. -/
theorem Unsigned.not_lt (h : Unsigned x.toModel.unpack) : ¬ x < 0.0 := by
  intro below
  have below : (x.toModel.unpack.compare (.zero .positive) == some .lt) = true :=
    of_decide_eq_true below
  revert below
  cases hx : x.toModel.unpack with
  | notANumber | zero s => simp [UnpackedFloat.compare]
  | infinity s | finite s m e pos =>
    rw [hx] at h
    cases h
    simp [UnpackedFloat.compare]

theorem Unsigned.ne_negative_zero (h : Unsigned x.toModel.unpack) : x ≠ -0.0 := by
  rintro rfl
  cases h

/-- The number that an unsigned numeral spells has no sign. -/
theorem unsigned_toFloat (s : Decimal.Scaled) : Unsigned s.toFloat.toModel.unpack := by
  have powers : ∀ x ∈ Float.exactlyRepresentablePowersOfTen, Unsigned x.toModel.unpack := by
    intro x hx
    simp only [Float.exactlyRepresentablePowersOfTen, List.mem_toArray, List.mem_cons,
      List.not_mem_nil, or_false] at hx
    rcases hx with rfl | rfl | rfl | rfl | rfl | rfl | rfl | rfl | rfl | rfl | rfl | rfl | rfl |
      rfl | rfl | rfl | rfl |
      rfl | rfl | rfl | rfl | rfl | rfl <;> exact rfl
  unfold Decimal.Scaled.toFloat
  dsimp only
  split
  · exact rfl
  split
  · exact rfl
  · unfold Float.ofScientific
    split
    next small =>
      have power := powers _ (Array.getElem_mem (i := s.exponent.natAbs) (by
        simp only [Float.exactlyRepresentablePowersOfTen, List.size_toArray, List.length_cons,
          List.length_nil]; omega))
      have digits : Unsigned s.digits.toUInt64.toFloat.toModel.unpack := (unsigned_ofNat _).pack
      dsimp only
      split
      · exact (digits.div power).pack
      · exact (digits.mul power).pack
    next => exact (unsigned_ofScientific _ _).pack

end Spreadsheet.Binary64
