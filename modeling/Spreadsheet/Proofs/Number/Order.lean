import Mathlib
import Spreadsheet.Proofs.Number.Arithmetic
import Spreadsheet.Value.Order

/-!
# `Proofs/Number/Order.lean` — numbers stand in a line

Two numbers are compared by their signs and by how large they are, the larger exponent first,
since the significand of a number is as long as its exponent allows. That is a comparison of
triples of integers (`standing`), and so, but for what is not a number, the order of numbers is
one in which any two are in order and "at most" can be chained. The zeros are level.

What is not a number stands nowhere and is compared with nothing, so that it is excluded where
order is spoken of, and not only where it would lie.
-/

set_option autoImplicit false

namespace Spreadsheet

namespace Binary64

open Float.Model (UnpackedFloat)

/-- Where a number stands: below or above zero and whether it is finite, then its exponent and its
significand, both turned around below zero. -/
def standing : UnpackedFloat → ℤ × ℤ × ℤ
  | .infinity .negative => (-2, 0, 0)
  | .finite .negative m e _ => (-1, -e, -m)
  | .zero _ | .notANumber => (0, 0, 0)
  | .finite .positive m e _ => (1, e, m)
  | .infinity .positive => (2, 0, 0)

/-- The order of standings, the first component first. -/
def compareStanding : UnpackedFloat → UnpackedFloat → Ordering :=
  compareLex (compareOn fun u => (standing u).1)
    (compareLex (compareOn fun u => (standing u).2.1) (compareOn fun u => (standing u).2.2))

instance : Std.TransCmp compareStanding :=
  inferInstanceAs (Std.TransCmp (compareLex (compareOn fun u => (standing u).1)
    (compareLex (compareOn fun u => (standing u).2.1) (compareOn fun u => (standing u).2.2))))

variable {u v : UnpackedFloat}

/-- Numbers turned around are ordered the other way. -/
theorem compare_neg_neg (a b : ℤ) : compare (-a) (-b) = (compare a b).swap := by
  rw [← Std.OrientedOrd.eq_swap]
  simp only [compare, compareOfLessAndEq, neg_lt_neg_iff, neg_inj, eq_comm]

/-- What are numbers are compared by where they stand. -/
theorem compare_eq_standing (hu : u ≠ .notANumber) (hv : v ≠ .notANumber) :
    u.compare v = some (compareStanding u v) := by
  cases u with
  | notANumber => exact absurd rfl hu
  | infinity s =>
    cases v with
    | notANumber => exact absurd rfl hv
    | infinity s' => cases s <;> cases s' <;> rfl
    | zero s' => cases s <;> rfl
    | finite s' m e pos => cases s <;> cases s' <;> rfl
  | zero s =>
    cases v with
    | notANumber => exact absurd rfl hv
    | infinity s' => cases s' <;> rfl
    | zero s' => rfl
    | finite s' m e pos => cases s' <;> rfl
  | finite s m e pos =>
    cases v with
    | notANumber => exact absurd rfl hv
    | infinity s' => cases s <;> cases s' <;> rfl
    | zero s' => cases s <;> rfl
    | finite s' m' e' pos' =>
      -- Significands are compared as natural numbers here and as integers there.
      have significands : compare m m' = compare (m : ℤ) m' := by
        rw [← cmp_eq_compare, ← cmp_eq_compare, Nat.strictMono_cast.cmp_map_eq]
      cases s <;> cases s'
      · show some _ = some ((compare (-e) (-e')).then (compare (-(m : ℤ)) (-m')))
        rw [compare_neg_neg, compare_neg_neg, significands, Ordering.swap_then]
      · rfl
      · rfl
      · show some _ = some ((compare e e').then (compare (m : ℤ) m'))
        rw [significands]

end Binary64

/-! ## The order of numbers -/

section
open Binary64
variable {x y z : Float}

theorem compareNumbers_eq_standing (hx : x ≠ .nan) (hy : y ≠ .nan) :
    compareNumbers x y = compareStanding x.toModel.unpack y.toModel.unpack := by
  unfold compareNumbers
  rw [ne_nan_iff] at hx hy
  have flipped : compareStanding y.toModel.unpack x.toModel.unpack =
    (compareStanding x.toModel.unpack y.toModel.unpack).swap := Std.OrientedCmp.eq_swap
  simp only [lt_iff, compare_eq_standing hx hy, compare_eq_standing hy hx,
    Option.some.injEq, flipped]
  cases compareStanding x.toModel.unpack y.toModel.unpack <;> rfl

/-- What is not a number is level with every number. -/
theorem compareNumbers_of_nan (h : x = .nan ∨ y = .nan) : compareNumbers x y = .eq := by
  have unordered (u : Float.Model.UnpackedFloat) : Float.nan.toModel.unpack.compare u = none ∧
      u.compare Float.nan.toModel.unpack = none := by
    have nan : Float.nan.toModel.unpack = .notANumber := not_not.1 (mt ne_nan_iff.2 (not_not.2 rfl))
    rw [nan]
    cases u <;> exact ⟨rfl, rfl⟩
  rcases h with rfl | rfl <;> simp [compareNumbers, lt_iff, unordered]

/-- Any two numbers are in order. -/
theorem compareNumbers_swap (x y : Float) : compareNumbers y x = (compareNumbers x y).swap := by
  by_cases h : x = .nan ∨ y = .nan
  · rw [compareNumbers_of_nan h, compareNumbers_of_nan h.symm]
    rfl
  · obtain ⟨hx, hy⟩ := not_or.1 h
    rw [compareNumbers_eq_standing hx hy, compareNumbers_eq_standing hy hx]
    exact Std.OrientedCmp.eq_swap

/-- What is at most what is at most a number is at most that number, unless the one between is no
number. -/
theorem compareNumbers_trans (hy : y ≠ .nan) (xy : (compareNumbers x y).isLE)
    (yz : (compareNumbers y z).isLE) :
    (compareNumbers x z).isLE := by
  by_cases h : x = .nan ∨ z = .nan
  · rw [compareNumbers_of_nan h]
    rfl
  · obtain ⟨hx, hz⟩ := not_or.1 h
    rw [compareNumbers_eq_standing hx hy] at xy
    rw [compareNumbers_eq_standing hy hz] at yz
    rw [compareNumbers_eq_standing hx hz]
    exact Std.TransCmp.isLE_trans xy yz

end

end Spreadsheet
