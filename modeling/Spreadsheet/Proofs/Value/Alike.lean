import Mathlib
import Spreadsheet.Evaluation
import Spreadsheet.Proofs.Number.Arithmetic
import Spreadsheet.Proofs.Value.Finite
import Spreadsheet.Proofs.Value.Outcome

/-!
# `Proofs/Value/Alike.lean` — values that computations do not tell apart

Two values are alike if they are built alike and have equal numbers in equal places, where equal
numbers are the same number or the two zeros. What is coerced, compared or taken out of alike
values is alike again, and what fails fails for one reason.

Beside that the relation says what there may be in the values: an `Allowance` names numbers and
errors, and alike values have no others in them. So one proof that a function takes alike
arguments to alike results is a proof of several things. With every number allowed but
not-a-number, it says that recalculation finds its result unchanged (`Value.Same`); with every
error allowed but that of a loop, it says that the function makes up no such error.
-/

set_option autoImplicit false

namespace Spreadsheet

open Binary64 (Near)

/-- Which numbers and which errors there may be in a value: finite numbers, whole numbers however
large, and errors that a formula can make of its own, in any case. -/
structure Allowance where
  number : Float → Prop
  error : ErrorCode → Prop
  number_of_isFinite {x : Float} (finite : x.isFinite = true) : number x
  number_ofInt (n : Int) : number (Float.ofInt n)
  error_of_ne_cycle {e : ErrorCode} (other : e ≠ .cycle) : error e

variable {A : Allowance}

/-! ## Scalars -/

/-- Scalars of one kind, the numbers equal and allowed. -/
inductive Scalar.Alike (A : Allowance) : Scalar → Scalar → Prop where
  | number {x y : Float} (near : Near x y) (allowed : A.number x) : Alike A (.number x) (.number y)
  | text (s : String) : Alike A (.text s) (.text s)
  | bool (b : Bool) : Alike A (.bool b) (.bool b)
  | blank : Alike A .blank .blank

namespace Scalar.Alike

variable {s s' t t' : Scalar}

theorem toNumber? (h : s.Alike A s') :
    (∃ x y, s.toNumber? = some x ∧ s'.toNumber? = some y ∧ Near x y ∧ A.number x) ∨
      (s.toNumber? = none ∧ s'.toNumber? = none) := by
  cases h with
  | number near allowed => exact .inl ⟨_, _, rfl, rfl, near, allowed⟩
  | text s =>
    cases hx : Scalar.toNumber? (.text s) with
    | none => exact .inr ⟨rfl, rfl⟩
    | some x =>
      exact .inl ⟨x, x, rfl, rfl, .refl x, A.number_of_isFinite (NumericText.isFinite_of_read? hx)⟩
  | bool b => exact .inl ⟨_, _, rfl, rfl, .refl _, A.number_of_isFinite (by cases b <;> decide)⟩
  | blank => exact .inl ⟨_, _, rfl, rfl, .refl _, A.number_of_isFinite (by decide)⟩

theorem toText_eq (h : s.Alike A s') : s.toText = s'.toText := by
  cases h with
  | @number x y near _ =>
    show numberText x = numberText y
    unfold numberText
    have zero : (x == 0.0) = (y == 0.0) := near.beq (.refl _)
    cases hx : x == 0.0 with
    | true =>
      rw [← zero, hx]
      rfl
    | false => rw [near.eq_of_ne hx, zero.symm.trans hx]
  | _ => rfl

theorem toBool_eq (h : s.Alike A s') : s.toBool = s'.toBool := by
  cases h with
  | number near _ => exact congrArg not (near.beq (.refl _))
  | _ => rfl

end Scalar.Alike

/-- Equal numbers stand in the same order to equal numbers. -/
theorem compareNumbers_near {x x' y y' : Float} (hx : Near x x') (hy : Near y y') :
    compareNumbers x y = compareNumbers x' y' := by
  unfold compareNumbers
  simp only [hx.lt hy, hy.lt hx]

theorem Scalar.Alike.compare_eq {s s' t t' : Scalar} (hs : s.Alike A s') (ht : t.Alike A t') :
    s.compare t = s'.compare t' := by
  cases hs with
  | number near _ =>
    cases ht with
    | number near' _ => exact compareNumbers_near near near'
    | blank => exact compareNumbers_near near (.refl _)
    | _ => rfl
  | blank =>
    cases ht with
    | number near _ => exact compareNumbers_near (.refl _) near
    | _ => rfl
  | _ =>
    cases ht with
    | _ => rfl

/-! ## Values -/

namespace Value

/-- Values that are built alike, with equal numbers and the same errors in them, all of them
allowed. -/
inductive Alike (A : Allowance) : Value → Value → Prop where
  | scalar {s t : Scalar} (h : s.Alike A t) : Alike A (.scalar s) (.scalar t)
  | error {e : ErrorCode} (allowed : A.error e) : Alike A (.error e) (.error e)
  | block {rows columns : Nat} {entry entry' : Fin rows → Fin columns → Value}
      (h : ∀ i j, Alike A (entry i j) (entry' i j)) :
      Alike A (.block ⟨rows, columns, entry⟩) (.block ⟨rows, columns, entry'⟩)

/-- An error other than that of a loop is allowed anyway. -/
theorem alike_error {e : ErrorCode} (other : e ≠ .cycle) : (error e).Alike A (error e) :=
  .error (A.error_of_ne_cycle other)

theorem alike_ofFloat {x y : Float} (h : Near x y) : (ofFloat x).Alike A (ofFloat y) := by
  unfold ofFloat
  rw [← h.isFinite]
  cases finite : x.isFinite with
  | true => exact .scalar (.number h (A.number_of_isFinite finite))
  | false => exact alike_error (by decide)

namespace Alike

variable {v v' w w' : Value}

theorem unwrap (h : v.Alike A v') : v.unwrap.Alike A v'.unwrap := by
  cases h with
  | scalar h => exact .scalar h
  | error allowed => exact .error allowed
  | block h =>
    simp only [Value.unwrap]
    split
    · exact h _ _
    · exact alike_error (by decide)

theorem error?_eq (h : v.Alike A v') : v.error? = v'.error? := by
  cases h <;> rfl

/-! ## What alike values come down to -/

theorem scalar? (h : v.Alike A v') :
    RelatedOutcome (Alike A) (Scalar.Alike A) v.scalar? v'.scalar? := by
  induction h with
  | scalar h =>
    rw [Value.scalar?, Value.scalar?]
    exact .ok h
  | error allowed =>
    rw [Value.scalar?]
    exact .error (.error allowed)
  | block _ ih =>
    simp only [Value.scalar?]
    split
    · exact ih _ _
    · exact .error (alike_error (by decide))

theorem toNumber (h : v.Alike A v') :
    RelatedOutcome (Alike A) (fun x y => Near x y ∧ A.number x) v.toNumber v'.toNumber := by
  refine h.scalar?.bind fun h => ?_
  rcases h.toNumber? with ⟨x, y, hx, hy, near⟩ | ⟨hx, hy⟩
  · rw [hx, hy]
    exact .ok near
  · rw [hx, hy]
    exact .error (alike_error (by decide))

/-- `toNumber`, where it does not matter which numbers are allowed. -/
theorem near (h : v.Alike A v') : RelatedOutcome (Alike A) Near v.toNumber v'.toNumber :=
  h.toNumber.mono And.left

theorem toText (h : v.Alike A v') : RelatedOutcome (Alike A) Eq v.toText v'.toText :=
  h.scalar?.map Scalar.Alike.toText_eq

theorem toBool (h : v.Alike A v') : RelatedOutcome (Alike A) Eq v.toBool v'.toBool :=
  h.scalar?.map Scalar.Alike.toBool_eq

/-! ## The order of alike values -/

/-- What a value that is no scalar is compared by. -/
theorem near_getD (h : v.Alike A v') :
    Near (v.toNumber.toOption.getD 0.0) (v'.toNumber.toOption.getD 0.0) := by
  rcases h.near with ⟨x, y, hx, hy, near⟩ | ⟨e, hx, hy, -⟩
  · rw [hx, hy]
    exact near
  · rw [hx, hy]
    exact .refl _

theorem compare_eq (hv : v.Alike A v') (hw : w.Alike A w') : v.compare w = v'.compare w' := by
  have ranks : compareNumbers (v.toNumber.toOption.getD 0.0) (w.toNumber.toOption.getD 0.0) =
      compareNumbers (v'.toNumber.toOption.getD 0.0) (w'.toNumber.toOption.getD 0.0) :=
    compareNumbers_near hv.near_getD hw.near_getD
  cases hv with
  | scalar hs =>
    cases hw with
    | scalar ht => exact hs.compare_eq ht
    | _ => rfl
  | error | block =>
    cases hw with
    | scalar ht => rfl
    | _ => exact ranks

theorem isLevel_eq (hv : v.Alike A v') (hw : w.Alike A w') : v.isLevel w = v'.isLevel w' := by
  unfold isLevel
  rw [hv.compare_eq hw]

end Alike

end Value

end Spreadsheet
