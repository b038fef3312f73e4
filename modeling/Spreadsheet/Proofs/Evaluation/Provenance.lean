import Spreadsheet.Proofs.Evaluation.Lawful

/-!
# `Proofs/Evaluation/Provenance.lean` — where the error of a loop comes from

Operators, names and refused arguments produce errors of their own, and none of them is that of a
loop. So if the functions that a formula calls do not make it up either, a formula whose result has
the error of a loop in it has read a value that has it (`Expr.evaluate_contains_cycle`).

*In* it, because a block can carry an error along unseen until an entry is looked up.

Errors are passed on from the left: of two operands the one that is read first decides. For where
an error comes from it does not matter which, so the lemmas on operators are disjunctions, and the
order is not followed any further.
-/

set_option autoImplicit false

namespace Spreadsheet

namespace Value

/-- A value that is an error, or a block with an entry that has it in it. -/
inductive Contains (e : ErrorCode) : Value → Prop where
  | error : Contains e (.error e)
  | entry {rows columns : Nat} {entry : Fin rows → Fin columns → Value} (i : Fin rows)
      (j : Fin columns)
      (h : Contains e (entry i j)) : Contains e (.block ⟨rows, columns, entry⟩)

theorem not_contains_scalar {e : ErrorCode} {s : Scalar} : ¬ (scalar s).Contains e := by
  intro h
  cases h

theorem contains_error_iff {e e' : ErrorCode} : (error e').Contains e ↔ e' = e := by
  constructor
  · intro h
    cases h
    rfl
  · rintro rfl
    exact .error

/-- Same values have the same errors in them. -/
theorem Same.contains {e : ErrorCode} {v w : Value} (h : Same v w) (hv : v.Contains e) :
    w.Contains e := by
  induction h with
  | scalar _ => exact absurd hv not_contains_scalar
  | error _ => exact hv
  | block _ ih =>
    cases hv with
    | entry i j hij => exact .entry i j (ih i j hij)

/-- Unwrapping finds no error that was not there, but for the one that a block is no value. -/
theorem contains_of_unwrap {e : ErrorCode} (he : e ≠ .typeMismatch) {v : Value}
    (h : v.unwrap.Contains e) :
    v.Contains e := by
  cases v with
  | scalar s => exact h
  | error e' => exact h
  | block b =>
    obtain ⟨rows, columns, entry⟩ := b
    simp only [unwrap] at h
    split at h
    · exact .entry _ _ h
    · exact absurd (contains_error_iff.1 h) he.symm

theorem contains_of_scalar? {e : ErrorCode} (he : e ≠ .typeMismatch) :
    ∀ {v : Value}, v.scalar? = .error e → v.Contains e
  | .scalar _, h => by simp [scalar?] at h
  | .error e', h => by
    rw [scalar?] at h
    cases h
    exact .error
  | .block ⟨rows, columns, entry⟩, h => by
    rw [scalar?] at h
    split at h
    · exact .entry _ _ (contains_of_scalar? he h)
    · cases h
      exact absurd rfl he

theorem contains_of_toNumber {e : ErrorCode} (he : e ≠ .typeMismatch) {v : Value}
    (h : v.toNumber = .error e) :
    v.Contains e := by
  unfold toNumber at h
  cases hs : v.scalar? with
  | error e' =>
    rw [hs] at h
    cases h
    exact contains_of_scalar? he hs
  | ok s =>
    simp only [hs, bind, Except.bind] at h
    split at h
    · cases h
    · cases h
      exact absurd rfl he

theorem contains_of_toText {e : ErrorCode} (he : e ≠ .typeMismatch) {v : Value}
    (h : v.toText = .error e) :
    v.Contains e := by
  unfold toText at h
  cases hs : v.scalar? with
  | error e' =>
    rw [hs] at h
    cases h
    exact contains_of_scalar? he hs
  | ok s =>
    rw [hs] at h
    cases h

theorem contains_of_asResult {e : ErrorCode} (he : e ≠ .typeMismatch) {v : Value}
    (h : v.asResult.Contains e) :
    v.Contains e := by
  unfold asResult at h
  split at h
  · exact absurd h not_contains_scalar
  · exact contains_of_unwrap he h

end Value

/-! ## Operators -/

theorem not_contains_ofFloat {x : Float} : ¬ (Value.ofFloat x).Contains .cycle := by
  unfold Value.ofFloat
  split
  · exact Value.not_contains_scalar
  · intro h
    exact absurd (Value.contains_error_iff.1 h) (by decide)

theorem numericOperation_contains {f : Float → Float → Except ErrorCode Float}
    (hf : ∀ x y, f x y ≠ .error .cycle) {v w : Value}
    (h : (numericOperation f v w).Contains .cycle) :
    v.Contains .cycle ∨ w.Contains .cycle := by
  unfold numericOperation at h
  -- An operand that is no number is passed on as the error it comes to, and the left one first.
  cases hv : v.toNumber with
  | error e =>
    simp only [hv] at h
    cases Value.contains_error_iff.1 h
    exact .inl (Value.contains_of_toNumber (by decide) hv)
  | ok x =>
    cases hw : w.toNumber with
    | error e =>
      simp only [hv, hw] at h
      cases Value.contains_error_iff.1 h
      exact .inr (Value.contains_of_toNumber (by decide) hw)
    | ok y =>
      simp only [hv, hw] at h
      cases hxy : f x y with
      | ok z =>
        simp only [hxy] at h
        exact absurd h not_contains_ofFloat
      | error e =>
        simp only [hxy] at h
        cases Value.contains_error_iff.1 h
        exact absurd hxy (hf x y)

theorem joinTexts_contains {v w : Value} (h : (joinTexts v w).Contains .cycle) :
    v.Contains .cycle ∨ w.Contains .cycle := by
  unfold joinTexts at h
  cases hv : v.toText with
  | error e =>
    simp only [hv] at h
    cases Value.contains_error_iff.1 h
    exact .inl (Value.contains_of_toText (by decide) hv)
  | ok s =>
    cases hw : w.toText with
    | error e =>
      simp only [hv, hw] at h
      cases Value.contains_error_iff.1 h
      exact .inr (Value.contains_of_toText (by decide) hw)
    | ok t =>
      simp only [hv, hw] at h
      exact absurd h Value.not_contains_scalar

theorem quotient_ne_cycle (x y : Float) : quotient x y ≠ .error .cycle := by
  unfold quotient
  split <;> simp

theorem power_ne_cycle (x y : Float) : power x y ≠ .error .cycle := by
  unfold power
  split
  · simp
  · simp only
    split <;> simp

theorem Operator.apply_contains {op : Operator} {v w : Value} (h : (op.apply v w).Contains .cycle) :
    v.Contains .cycle ∨ w.Contains .cycle := by
  cases op with
  | add | subtract | multiply =>
    simp only [apply] at h
    exact numericOperation_contains (by simp) h
  | divide => exact numericOperation_contains quotient_ne_cycle h
  | power => exact numericOperation_contains power_ne_cycle h
  | concat => exact joinTexts_contains h
  | _ => exact absurd h Value.not_contains_scalar

theorem Sign.apply_contains {sign : Sign} {v : Value} (h : (sign.apply v).Contains .cycle) :
    v.Contains .cycle := by
  unfold apply at h
  cases hv : v.toNumber with
  | error e =>
    simp only [hv] at h
    cases Value.contains_error_iff.1 h
    exact Value.contains_of_toNumber (by decide) hv
  | ok x =>
    rw [hv] at h
    cases sign <;> exact absurd h Value.not_contains_scalar

/-! ## Formulas -/

/-- One value, without the error of a loop in it. -/
def Value.Untainted (v v' : Value) : Prop := v = v' ∧ ¬ v.Contains .cycle

theorem Value.untainted_respected : Value.Respected Value.Untainted where
  text _ := ⟨rfl, not_contains_scalar⟩
  bool _ := ⟨rfl, not_contains_scalar⟩
  error he := ⟨rfl, fun h => he (contains_error_iff.1 h)⟩
  error? h := by rw [h.1]
  unwrap h := ⟨by rw [h.1], fun hc => h.2 (contains_of_unwrap (by decide) hc)⟩
  sign h _ := ⟨by rw [h.1], fun hc => h.2 (Sign.apply_contains hc)⟩

/-- A function that does not make up the error of a loop. -/
def Function.CycleSafe (f : Function) : Prop :=
  ∀ (c : Circumstances) (args : List Value), (∀ v ∈ args, ¬ v.Contains .cycle) →
    ¬ (f.compute c args).Contains .cycle

/-- A formula of functions that do not make up the error of a loop. -/
def Expr.CycleSafe (registry : Registry) (e : Expr) : Prop :=
  ∀ name args, .call name args ∈ e.parts → ∀ f, registry.find? name = some f → f.CycleSafe

namespace Expr

theorem cycleSafe_of_callsOnly {registry : Registry} {names : List String} {e : Expr}
    (h : e.callsOnly names = true) (functions : ∀ name ∈ names, ∀ f, registry.find? name = some f →
      f.CycleSafe) : e.CycleSafe registry := by
  intro function args called
  exact functions function (mem_of_callsOnly h called)

/-- The error of a loop in a result was in a value that the formula reads. -/
theorem evaluate_contains_cycle {env : Environment} {e : Expr} (safe : e.CycleSafe env.registry)
    {calls : CallCounts} (h : (e.evaluate env calls).1.Contains .cycle) :
    (∃ a, .cell a ∈ e.parts ∧ (env.cell a).Contains .cycle) ∨
      ∃ r, .range r ∈ e.parts ∧ (env.range r).Contains .cycle := by
  by_contra none
  obtain ⟨cells, ranges⟩ := not_or.1 none
  -- If nothing that is read had the error, it would be absent from every part, and so from the
  -- result.
  have related : ∀ part ∈ e.parts, env.Relates env Value.Untainted Eq part := by
    intro part hp
    cases part with
    | number x => exact ⟨rfl, Value.not_contains_scalar⟩
    | cell a => exact ⟨rfl, fun hc => cells ⟨a, hp, hc⟩⟩
    | range r => exact ⟨rfl, fun hc => ranges ⟨r, hp, hc⟩⟩
    | binary op lhs rhs =>
      rintro x _ y _ ⟨rfl, hx⟩ ⟨rfl, hy⟩
      refine ⟨rfl, fun hc => ?_⟩
      rcases Operator.apply_contains hc with hc | hc
      · exact hx hc
      · exact hy hc
    | call function args =>
      refine Environment.relatesCalls Value.untainted_respected (fun q _ => by rw [q]) rfl ?_
      rintro f found as as' calls _ rs rfl
      have same : as = as' := by
        induction rs with
        | nil => rfl
        | cons hv _ ih => rw [hv.1, ih]
      subst same
      refine ⟨rfl, safe function args hp f found _ as fun v hv => ?_⟩
      obtain ⟨i, hi, rfl⟩ := List.getElem_of_mem hv
      exact (List.forall₂_iff_get.1 rs).2 i hi hi |>.2
    | _ => trivial
  exact (eval_related Value.untainted_respected e related rfl).1.2
    (Value.contains_of_asResult (by decide) h)

end Expr

end Spreadsheet
