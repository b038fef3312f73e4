import Mathlib
import Spreadsheet.Proofs.Number.Arithmetic

/-!
# `Proofs/Number/Zeros.lean` — what is computed of the zeros

Functions of the library do more with numbers than the operators do: they take whole parts and
roots, clear a number of noise, and make positions and counts of it. Numbers that are equal and
not identical are the two zeros, so such a step takes equal numbers to equal numbers as soon as it
does so for these two (`Near.map`, `Near.congr`), and that can be computed. A quotient is the
exception: it is formed of any two numbers, and the zeros are told apart where one of them
divides.

The conditions on the zeros are closed terms, and so they are decided by evaluating the function
there. A new step of a function is covered in the same way, by one line.
-/

set_option autoImplicit false

namespace Spreadsheet
namespace Binary64

open Float.Model (UnpackedFloat)
open Float.Model.Format (binary64)
open Decimal (Binary)

variable {α : Type} {x x' y : Float}

instance : DecidablePred IsZero := fun x => inferInstanceAs (Decidable (x = 0.0 ∨ x = -0.0))

instance : DecidableRel Near :=
  fun x y => inferInstanceAs (Decidable (x = y ∨ (IsZero x ∧ IsZero y)))

/-- What makes no difference between the zeros makes none between equal numbers. -/
theorem Near.congr (h : Near x y) {f : Float → α} (zeros : f 0.0 = f (-0.0)) : f x = f y := by
  -- The numbers are one, or each is one of the two zeros.
  rcases h with rfl | ⟨rfl | rfl, rfl | rfl⟩
  · rfl
  · rfl
  · exact zeros
  · exact zeros.symm
  · rfl

/-- What takes the zeros to equal numbers takes all equal numbers to equal ones. -/
theorem Near.map (h : Near x y) {f : Float → Float} (zeros : Near (f 0.0) (f (-0.0))) :
    Near (f x) (f y) := by
  rcases h with rfl | ⟨rfl | rfl, rfl | rfl⟩
  · exact .refl _
  · exact .refl _
  · exact zeros
  · exact zeros.symm
  · exact .refl _

/-- Equal numbers have equal quotients by one number, be it a zero: the zeros by a zero are
not-a-number both. -/
theorem Near.div_right (h : Near x x') (y : Float) : Near (x / y) (x' / y) := by
  have quotients : Like (UnpackedFloat.div binary64 x.toModel.unpack y.toModel.unpack)
      (UnpackedFloat.div binary64 x'.toModel.unpack y.toModel.unpack) := by
    -- Only a zero can be told from its negative by what it is divided into.
    cases divisor : y.toModel.unpack with
    | zero t =>
      rcases h.unpack with same | ⟨s, s', hs, hs'⟩
      · rw [same]
        exact .inl rfl
      · rw [hs, hs']
        exact .inl rfl
    | _ =>
      rw [← divisor]
      exact h.unpack.div fun t ht => by cases divisor.symm.trans ht
  exact quotients.pack

/-! ## Parts of a number -/

theorem zero_exact : Binary.ofFloat? 0.0 = some ⟨false, 0, -1074⟩ := rfl

theorem negZero_exact : Binary.ofFloat? (-0.0) = some ⟨true, 0, -1074⟩ := rfl

theorem Near.abs (h : Near x y) : Near x.abs y.abs := h.map (by decide)

theorem Near.sqrt (h : Near x y) : Near x.sqrt y.sqrt := h.map (by decide)

theorem Near.isNaN (h : Near x y) : x.isNaN = y.isNaN := h.congr (by decide)

/-- Where the whole part of nothing is nothing, whatever its sign and unit, equal numbers have
equal whole parts. -/
theorem Near.wholePart (h : Near x y) {part : Binary → Int}
    (ofNothing : ∀ s q, part ⟨s, 0, q⟩ = 0) :
    Near (Decimal.wholePart part x) (Decimal.wholePart part y) := by
  refine h.map (.inr ⟨.inl ?_, .inr ?_⟩)
  · simp only [Decimal.wholePart, zero_exact, ofNothing, Decimal.ofWhole]
    rfl
  · simp only [Decimal.wholePart, negZero_exact, ofNothing, Decimal.ofWhole]
    rfl

theorem truncate_nothing (s : Bool) (q : Int) : Binary.truncate ⟨s, 0, q⟩ = 0 := by
  simp [Binary.truncate, Binary.ratio, Binary.signed]

theorem floor_nothing (s : Bool) (q : Int) : Binary.floor ⟨s, 0, q⟩ = 0 := by
  simp [Binary.floor, Binary.ratio, Binary.signed]

theorem ceiling_nothing (s : Bool) (q : Int) : Binary.ceiling ⟨s, 0, q⟩ = 0 := by
  simp [Binary.ceiling, Binary.ratio, Binary.signed]

theorem nearest_nothing (s : Bool) (q : Int) : Binary.nearest ⟨s, 0, q⟩ = 0 := by
  have unit : 0 < Nat.pow 2 (-q).toNat := Nat.pow_pos (by decide)
  have none : (2 * (0 * Nat.pow 2 q.toNat) + Nat.pow 2 (-q).toNat) / (2 * Nat.pow 2
    (-q).toNat) = 0 :=
    Nat.div_eq_of_lt (by omega)
  simp only [Binary.nearest, Binary.ratio, none]
  cases s <;> rfl

theorem Near.floor (h : Near x y) : Near (Decimal.floor x) (Decimal.floor y) :=
  h.wholePart floor_nothing

theorem Near.truncate (h : Near x y) : Near (Decimal.truncate x) (Decimal.truncate y) :=
  h.wholePart truncate_nothing

theorem Near.ceiling (h : Near x y) : Near (Decimal.ceiling x) (Decimal.ceiling y) :=
  h.wholePart ceiling_nothing

theorem Near.roundHalfAway (h : Near x y) :
    Near (Decimal.roundHalfAway x) (Decimal.roundHalfAway y) :=
  h.wholePart nearest_nothing

theorem Near.denoised (h : Near x y) : Near (Decimal.denoised x) (Decimal.denoised y) :=
  h.map (by decide +kernel)

theorem Near.toIntWithin (h : Near x y) (lo hi : Int) :
    Decimal.toIntWithin lo hi x = Decimal.toIntWithin lo hi y := by
  refine h.congr ?_
  unfold Decimal.toIntWithin
  simp only [zero_exact, negZero_exact, truncate_nothing]

theorem Near.toCount (h : Near x y) : Decimal.toCount x = Decimal.toCount y :=
  congrArg Int.toNat (h.toIntWithin _ _)

theorem Near.toInt64 (h : Near x y) : Decimal.toInt64 x = Decimal.toInt64 y := h.toIntWithin _ _

end Binary64
end Spreadsheet
