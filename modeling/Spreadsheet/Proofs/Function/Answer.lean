import Mathlib
import Spreadsheet.Proofs.Function.Lookup

/-!
# `Proofs/Function/Answer.lean` — what a function of the library is given

Before a function of the library answers, its arguments are counted and go through its policy. So
what it answers is what it makes of the arguments that the policy lets through
(`answers_of_apply`), and an ordinary answer shows that the policy has let some through
(`exists_of_answers`). No function here looks at the clock, and each answers just one value
(`Answers.unique`).

What is said of the answers of a function can thus be said of the computation behind it. The
arguments of a call are values here; what they are evaluated from does not matter.
-/

set_option autoImplicit false

namespace Spreadsheet.Lookup

variable {engine : Regex.Engine} {name spelling : String} {arity : Arity} {policy : ArgumentPolicy}
    {compute : List Value → Value}
  {args args' : List Value} {v w : Value}

/-- A function answers one value only. -/
theorem Answers.unique (h : Answers engine name args v) (h' : Answers engine name args w) :
    v = w := by
  obtain ⟨f, found, answer⟩ := h
  obtain ⟨f', found', answer'⟩ := h'
  obtain rfl := Option.some.inj (found.symm.trans found')
  exact (answer ⟨⟨.epoch, 0⟩, 0, 0⟩).symm.trans (answer' _)

/-- A function answers what it makes of the arguments that its policy lets through. -/
theorem answers_of_apply (found : (Registry.library engine).find? name = some
      (.ofArguments spelling arity policy compute))
    (accepts : arity.accepts args.length) (passed : policy.apply args = .ok args') :
    Answers engine name args (compute args') := by
  refine ⟨_, found, fun c => ?_⟩
  have accepted : (Function.ofArguments spelling arity policy compute).accepted args = .ok args' :=
    (if_pos accepts).trans passed
  unfold Function.call
  rw [accepted]
  rfl

/-- An answer that is no error is what a function makes of some arguments. -/
theorem exists_of_answers (found : (Registry.library engine).find? name = some
      (.ofArguments spelling arity policy compute))
    (h : Answers engine name args v) (plain : v.error? = none) : ∃ args', compute args' = v := by
  obtain ⟨f, found', answer⟩ := h
  obtain rfl := Option.some.inj (found.symm.trans found')
  have answer := answer ⟨⟨.epoch, 0⟩, 0, 0⟩
  unfold Function.call at answer
  split at answer
  next args' accepted => exact ⟨args', answer⟩
  next e refused =>
    rw [← answer] at plain
    cases plain

/-! ## Policies -/

/-- Scalars are unwrapped and let through if none of them is an error. -/
theorem apply_scalar (plain : ∀ v ∈ args, v.unwrap.error? = none) :
    ArgumentPolicy.scalar.apply args = .ok (args.map Value.unwrap) := by
  simp only [ArgumentPolicy.apply]
  induction args with
  | nil => rfl
  | cons v args ih =>
    rw [List.mapM_cons, plain v List.mem_cons_self,
      ih fun u hu => plain u (List.mem_cons_of_mem v hu)]
    rfl

/-- A function that takes scalars is given them as they are. -/
theorem answers_scalars (found : (Registry.library engine).find? name = some
      (.ofArguments spelling arity .scalar compute))
    (scalars : List Scalar) (accepts : arity.accepts (scalars.map Value.scalar).length) :
    Answers engine name (scalars.map .scalar) (compute (scalars.map .scalar)) := by
  have unwrapped : (scalars.map Value.scalar).map Value.unwrap = scalars.map .scalar := by
    rw [List.map_map]
    rfl
  have plain : ∀ v ∈ scalars.map Value.scalar, v.unwrap.error? = none :=
    List.forall_mem_map.2 fun _ _ => rfl
  exact answers_of_apply found accepts ((apply_scalar plain).trans (congrArg Except.ok unwrapped))

/-- Arguments for an aggregate are let through as they are if none of them is an error. -/
theorem apply_aggregate (plain : ∀ v ∈ args, v.error? = none) :
    ArgumentPolicy.aggregate.apply args = .ok args := by
  simp only [ArgumentPolicy.apply, List.findSome?_eq_none_iff.2 plain]

end Spreadsheet.Lookup
