import Spreadsheet.Proofs.Value.Alike

/-!
# `Proofs/Value/Same.lean` — unchanged values

`Value.same` is what recalculation goes by when it decides whether a cell has changed. `Value.Same`
is the relation that it decides (`same_iff`), by the same three cases: scalars, errors and blocks.

The relation is symmetric and transitive, and it fails to be reflexive on exactly the values that
hold a not-a-number somewhere. So `Same v v` says that there is none in `v`, and a function that
takes same values to same values makes no not-a-number out of values without.

A value is compared with the one on record after every evaluation. Where the relation is not
reflexive a cell is taken to have changed each time; that is why later results ask for functions
that make no not-a-number.
-/

set_option autoImplicit false

namespace Spreadsheet

/-! ## Scalars -/

namespace Scalar

theorem same_symm {s t : Scalar} (h : s.same t = true) : t.same s = true := by
  cases s <;> cases t <;> simp only [same, beq_iff_eq, Bool.false_eq_true] at h ⊢
  case number.number x y => exact BEq.symm h
  all_goals exact h.symm

theorem same_trans {r s t : Scalar} (h : r.same s = true) (h' : s.same t = true) :
    r.same t = true := by
  cases r <;> cases s <;> simp only [same, beq_iff_eq, Bool.false_eq_true] at h <;>
    cases t <;> simp only [same, beq_iff_eq, Bool.false_eq_true] at h' ⊢
  case number.number.number x y z => exact BEq.trans h h'
  all_goals exact h.trans h'

/-- Same scalars are identical, but for the zeros. -/
theorem eq_or_near_of_same {s t : Scalar} (h : s.same t = true) :
    s = t ∨ ∃ x y, s = .number x ∧ t = .number y ∧ Binary64.Near x y := by
  cases s <;> cases t <;> simp only [same, beq_iff_eq, Bool.false_eq_true] at h
  case number.number x y => exact .inr ⟨x, y, rfl, rfl, Binary64.near_of_beq h⟩
  case blank.blank => exact .inl rfl
  all_goals exact .inl (by rw [h])

end Scalar

/-- Every error may be in a value, and every number but not-a-number, which is not equal to
itself. -/
def Allowance.numbers : Allowance where
  number x := (x == x) = true
  error _ := True
  number_of_isFinite := Binary64.beq_self_of_isFinite
  number_ofInt := Binary64.beq_self_ofInt
  error_of_ne_cycle _ := trivial

/-! ## Values -/

namespace Value

/-- Values with the same content. -/
inductive Same : Value → Value → Prop where
  | scalar {s t : Scalar} (h : s.same t = true) : Same (.scalar s) (.scalar t)
  | error (e : ErrorCode) : Same (.error e) (.error e)
  | block {rows columns : Nat} {entry entry' : Fin rows → Fin columns → Value}
      (h : ∀ i j, Same (entry i j) (entry' i j)) :
      Same (.block ⟨rows, columns, entry⟩) (.block ⟨rows, columns, entry'⟩)

theorem Same.of_same : ∀ {v w : Value}, v.same w = true → Same v w
  | .scalar _, .scalar _, h => by
    rw [same] at h
    exact .scalar h
  | .error _, .error _, h => by
    rw [same, beq_iff_eq] at h
    subst h
    exact .error _
  | .block ⟨rows, columns, entry⟩, .block ⟨rows', columns', entry'⟩, h => by
    rw [same] at h
    split at h
    case isFalse => exact absurd h (by simp)
    case isTrue size =>
      obtain ⟨rfl, rfl⟩ := size
      simp only [List.all_eq_true, List.mem_finRange, forall_const, Fin.cast_refl, id_eq] at h
      exact .block fun i j => Same.of_same (h i j)
  | .scalar _, .error _, h | .scalar _, .block _, h | .error _, .scalar _, h | .error _, .block _, h
  | .block _, .scalar _, h | .block _, .error _, h => by simp [same] at h

theorem Same.same {v w : Value} (h : Same v w) : v.same w = true := by
  induction h with
  | scalar h => rwa [Value.same]
  | error e => simp [Value.same]
  | block _ ih => simpa [Value.same] using ih

theorem same_iff {v w : Value} : v.same w = true ↔ Same v w := ⟨Same.of_same, Same.same⟩

theorem Same.symm {v w : Value} (h : Same v w) : Same w v := by
  induction h with
  | scalar h => exact .scalar (Scalar.same_symm h)
  | error e => exact .error e
  | block _ ih => exact .block ih

theorem Same.trans {u v w : Value} (h : Same u v) (h' : Same v w) : Same u w := by
  induction h generalizing w with
  | scalar h =>
    cases h' with
    | scalar h' => exact .scalar (Scalar.same_trans h h')
  | error e => exact h'
  | block _ ih =>
    cases h' with
    | block h' => exact .block fun i j => ih i j (h' i j)

/-- What is the same as something is the same as itself. -/
theorem Same.refl_left {v w : Value} (h : Same v w) : Same v v := h.trans h.symm

/-- What is the same is alike, and not-a-number is not in it. -/
theorem Same.alike {v w : Value} (h : Same v w) : Alike .numbers v w := by
  induction h with
  | @scalar s t h =>
    refine .scalar ?_
    cases s <;> cases t <;> simp only [Scalar.same, beq_iff_eq, Bool.false_eq_true] at h
    case number.number x y => exact .number (Binary64.near_of_beq h) (BEq.trans h (BEq.symm h))
    case blank.blank => exact .blank
    all_goals
      subst h
      constructor
  | error e => exact .error trivial
  | block _ ih => exact .block ih

theorem Alike.same {v w : Value} (h : Alike .numbers v w) : Same v w := by
  induction h with
  | scalar h =>
    refine .scalar ?_
    cases h with
    | number near allowed => exact near.beq_of_beq_self allowed
    | blank => rfl
    | _ => exact beq_self_eq_true _
  | error _ => exact .error _
  | block _ ih => exact .block ih

/-! ## What is made of same values -/

theorem Same.unwrap {v w : Value} (h : Same v w) : Same v.unwrap w.unwrap := h.alike.unwrap.same

theorem Same.error?_eq {v w : Value} (h : Same v w) : v.error? = w.error? := h.alike.error?_eq

/-- What a cell shows for same results is the same. -/
theorem Same.asResult {v w : Value} (h : Same v w) : Same v.asResult w.asResult := by
  have unwrapped := h.unwrap
  unfold Value.asResult
  generalize v.unwrap = v at unwrapped ⊢
  generalize w.unwrap = w at unwrapped ⊢
  cases unwrapped with
  | error e => exact .error e
  | block h => exact .block h
  | @scalar s t st =>
    rcases Scalar.eq_or_near_of_same st with rfl | ⟨x, y, rfl, rfl, -⟩
    · cases s with
      | blank => exact .scalar rfl
      | _ => exact .scalar st
    · exact .scalar st

theorem Same.toNumber {v w : Value} (h : Same v w) :
    (∃ x y, v.toNumber = .ok x ∧ w.toNumber = .ok y ∧ (x == y) = true) ∨
      ∃ e, v.toNumber = .error e ∧ w.toNumber = .error e := by
  rcases h.alike.toNumber with ⟨x, y, hx, hy, near, allowed⟩ | ⟨e, hx, hy, -⟩
  · exact .inl ⟨x, y, hx, hy, near.beq_of_beq_self allowed⟩
  · exact .inr ⟨e, hx, hy⟩

theorem Same.toText_eq {v w : Value} (h : Same v w) : v.toText = w.toText := h.alike.toText.eq

/-! ## The order of same values -/

theorem Same.compare_eq {v v' w w' : Value} (hv : Same v v') (hw : Same w w') :
    v.compare w = v'.compare w' :=
  hv.alike.compare_eq hw.alike

theorem Same.sameKind_eq {v v' w w' : Value} (hv : Same v v') (hw : Same w w') :
    v.sameKind w = v'.sameKind w' := by
  cases hv with
  | @scalar s s' hs =>
    cases hw with
    | @scalar t t' ht =>
      -- Same scalars are one, or they are two zeros, which are of one kind.
      rcases Scalar.eq_or_near_of_same hs with rfl | ⟨x, x', rfl, rfl, -⟩ <;>
        rcases Scalar.eq_or_near_of_same ht with rfl | ⟨y, y', rfl, rfl, -⟩
      · rfl
      · cases s <;> rfl
      · cases t <;> rfl
      · rfl
    | _ => cases s <;> cases s' <;> simp [Scalar.same] at hs <;> rfl
  | error e =>
    cases hw with
    | @scalar t t' ht => cases t <;> cases t' <;> simp [Scalar.same] at ht <;> rfl
    | _ => rfl
  | block h =>
    cases hw with
    | @scalar t t' ht => cases t <;> cases t' <;> simp [Scalar.same] at ht <;> rfl
    | _ => rfl

theorem Same.isEqual_eq {v v' w w' : Value} (hv : Same v v') (hw : Same w w') :
    v.isEqual w = v'.isEqual w' := by
  unfold isEqual isLevel
  rw [hv.sameKind_eq hw, hv.compare_eq hw]

end Value
end Spreadsheet
