import Mathlib
import Spreadsheet.Value.Basic

/-!
# `Proofs/Value/Outcome.lean` — computations that fail alike

What is computed of two related things is related again, or both computations fail, and for the
same reason. This is `RelatedOutcome`. It is put together the way computations are: a chain of
steps preserves it if every step does (`RelatedOutcome.bind`), and so does a list that is gone
through entry by entry (`RelatedOutcome.mapM`).

The relation between values stands in it for one thing only. An error may be asked for in order to
be ruled out, so that failures are related just if the error, as a value, is related to itself.

Nothing is said here of what is computed. The relation is chosen where functions are considered,
and the errors that it relates to themselves are those that a computation may fail with.
-/

set_option autoImplicit false

namespace Spreadsheet

/-- Outcomes that are related values, or one error that is related to itself. -/
def RelatedOutcome {α : Type} (R : Value → Value → Prop) (S : α → α → Prop)
    (r r' : Except ErrorCode α) : Prop :=
  (∃ a a', r = .ok a ∧ r' = .ok a' ∧ S a a') ∨ ∃ e, r = .error e ∧ r' = .error e ∧
    R (.error e) (.error e)

namespace RelatedOutcome

variable {α β : Type} {R : Value → Value → Prop} {S S' : α → α → Prop} {T : β → β → Prop}
    {r r' : Except ErrorCode α}
  {a a' : α} {e : ErrorCode}

theorem ok (h : S a a') : RelatedOutcome R S (.ok a) (.ok a') := .inl ⟨a, a', rfl, rfl, h⟩

theorem error (h : R (.error e) (.error e)) : RelatedOutcome R S (.error e) (.error e) :=
  .inr ⟨e, rfl, rfl, h⟩

theorem mono (h : RelatedOutcome R S r r') (weaker : ∀ {a a'}, S a a' → S' a a') :
    RelatedOutcome R S' r r' := by
  rcases h with ⟨a, a', rfl, rfl, s⟩ | ⟨e, rfl, rfl, he⟩
  · exact ok (weaker s)
  · exact error he

/-- Outcomes that are no different as far as they succeed are no different. -/
theorem eq (h : RelatedOutcome R Eq r r') : r = r' := by
  rcases h with ⟨a, a', rfl, rfl, rfl⟩ | ⟨e, rfl, rfl, -⟩ <;> rfl

/-- A step that takes related things to related outcomes may follow a computation. -/
theorem bind (h : RelatedOutcome R S r r') {f f' : α → Except ErrorCode β}
    (step : ∀ {a a'}, S a a' → RelatedOutcome R T (f a) (f' a')) :
    RelatedOutcome R T (r >>= f) (r' >>= f') := by
  rcases h with ⟨a, a', rfl, rfl, s⟩ | ⟨e, rfl, rfl, he⟩
  · exact step s
  · exact error he

/-- `bind`, where the step is given the same thing twice. -/
theorem bind_eq (h : RelatedOutcome R Eq r r') {f f' : α → Except ErrorCode β}
    (step : ∀ a, RelatedOutcome R T (f a) (f' a)) : RelatedOutcome R T (r >>= f) (r' >>= f') :=
  h.bind fun same => same ▸ step _

theorem map (h : RelatedOutcome R S r r') {f f' : α → β}
    (step : ∀ {a a'}, S a a' → T (f a) (f' a')) :
    RelatedOutcome R T (f <$> r) (f' <$> r') := by
  rcases h with ⟨a, a', rfl, rfl, s⟩ | ⟨e, rfl, rfl, he⟩
  · exact ok (step s)
  · exact error he

/-- Lists that are related entry by entry are gone through alike, up to the first failure. -/
theorem mapM {xs xs' : List α} (h : List.Forall₂ S xs xs') {f f' : α → Except ErrorCode β}
    (step : ∀ {a a'}, S a a' → RelatedOutcome R T (f a) (f' a')) :
    RelatedOutcome R (List.Forall₂ T) (xs.mapM f) (xs'.mapM f') := by
  induction h with
  | nil => exact ok .nil
  | cons head _ ih =>
    rw [List.mapM_cons, List.mapM_cons]
    exact (step head).bind fun first => ih.bind fun rest => ok (.cons first rest)

theorem ofExcept {r r' : Except ErrorCode Value} (h : RelatedOutcome R R r r') :
    R (.ofExcept r) (.ofExcept r') := by
  rcases h with ⟨v, v', rfl, rfl, s⟩ | ⟨e, rfl, rfl, he⟩
  · exact s
  · exact he

end RelatedOutcome

end Spreadsheet
