import Mathlib
import Spreadsheet.Proofs.Evaluation.Provenance
import Spreadsheet.Proofs.Number.Zeros

/-!
# `Proofs/Function/Respects/Basic.lean` — functions of alike arguments

A function of the library looks at its arguments through the coercions, the order of values and
the entries of blocks, and none of these tells alike values apart. So it takes alike arguments to
alike results, whatever numbers and errors are allowed in them (`Function.Respects`). That is
proved function by function in the modules beside this one; here is what the proofs have in
common, one lemma for each way to take arguments apart and for each form of a result.

For two allowances it says what recalculation relies on: that a function makes up no error of a
loop (`Function.Respects.cycleSafe`), and that unchanged arguments leave its result unchanged
(`Function.Respects.lawful`).

Arguments are related one by one, outcomes are related if both are the same error or both are
values that are related in turn, and what a function does is a chain of such steps, so that its
lemma is a chain of `bind`s in the same order.
-/

set_option autoImplicit false

namespace Spreadsheet

open Binary64 (Near)
open Argument

/-- A function that takes alike arguments to alike results. -/
def Function.Respects (A : Allowance) (f : Function) : Prop :=
  ∀ (c : Circumstances) {args args' : List Value}, List.Forall₂ (Value.Alike A) args args' →
    (f.compute c args).Alike A (f.compute c args')

variable {α β : Type} {A : Allowance} {S : α → β → Prop} {xs : List α} {ys : List β} {v v' : Value}
    {args args' : List Value}

/-! ## Results -/

/-- Both computations end in an error that a formula can make of its own. -/
theorem RelatedOutcome.refused {T : α → α → Prop} {e : ErrorCode} (other : e ≠ .cycle) :
    RelatedOutcome (Value.Alike A) T (.error e) (.error e) := error (Value.alike_error other)

namespace Argument

theorem alike_numberResult {r r' : Except ErrorCode Float}
    (h : RelatedOutcome (Value.Alike A) Near r r') :
    (numberResult r).Alike A (numberResult r') := by
  rcases h with ⟨x, y, rfl, rfl, near⟩ | ⟨e, rfl, rfl, allowed⟩
  · exact Value.alike_ofFloat near
  · exact allowed

theorem alike_textResult {r r' : Except ErrorCode String}
    (h : RelatedOutcome (Value.Alike A) Eq r r') :
    (textResult r).Alike A (textResult r') := by
  rcases h with ⟨s, _, rfl, rfl, rfl⟩ | ⟨e, rfl, rfl, allowed⟩
  · exact .scalar (.text s)
  · exact allowed

theorem alike_boolResult {r r' : Except ErrorCode Bool}
    (h : RelatedOutcome (Value.Alike A) Eq r r') :
    (boolResult r).Alike A (boolResult r') := by
  rcases h with ⟨b, _, rfl, rfl, rfl⟩ | ⟨e, rfl, rfl, allowed⟩
  · exact .scalar (.bool b)
  · exact allowed

end Argument

theorem Value.alike_ofInt (n : Int) :
    (Value.number (Float.ofInt n)).Alike A (.number (Float.ofInt n)) :=
  .scalar (.number (.refl _) (A.number_ofInt n))

/-! ## Lists -/

/-- What does not differ entry by entry does not differ for the lists. -/
theorem map_eq_of_forall₂ {γ : Type} {f : α → γ} {g : β → γ} (h : List.Forall₂ S xs ys)
    (same : ∀ {x y}, S x y → f x = g y) :
    xs.map f = ys.map g := by
  rw [← List.forall₂_eq_eq_eq]
  exact List.rel_map (fun _ _ s => same s) h

theorem countP_eq_of_forall₂ {p : α → Bool} {q : β → Bool} (h : List.Forall₂ S xs ys)
    (same : ∀ {x y}, S x y → p x = q y) :
    xs.countP p = ys.countP q := by
  have marks := map_eq_of_forall₂ h same
  simpa only [List.countP_map, Function.id_comp] using congrArg (List.countP id) marks

theorem findIdx?_eq_of_forall₂ {p : α → Bool} {q : β → Bool} (h : List.Forall₂ S xs ys)
    (same : ∀ {x y}, S x y → p x = q y) :
    xs.findIdx? p = ys.findIdx? q := by
  have marks := map_eq_of_forall₂ h same
  simpa only [List.findIdx?_map, Function.id_comp] using congrArg (List.findIdx? id) marks

theorem optionRel_getElem? (h : List.Forall₂ S xs ys) (i : Nat) : Option.Rel S xs[i]? ys[i]? := by
  induction h generalizing i with
  | nil => exact .none
  | cons first _ ih =>
    cases i with
    | zero => exact .some first
    | succ i => exact ih i

theorem forall₂_zip {γ δ : Type} {T : γ → δ → Prop} {us : List γ} {ws : List δ}
    (h : List.Forall₂ S xs ys) (h' : List.Forall₂ T us ws) :
    List.Forall₂ (fun p q => S p.1 q.1 ∧ T p.2 q.2) (xs.zip us) (ys.zip ws) := by
  induction h generalizing us ws with
  | nil => exact .nil
  | cons first _ ih =>
    cases h' with
    | nil => exact .nil
    | cons first' rest' => exact .cons ⟨first, first'⟩ (ih rest')

/-- Numbers that are there in both places or in neither are the same numbers, in order. -/
theorem forall₂_filterMap {found found' : List (Option Float)}
    (h : List.Forall₂ (Option.Rel Near) found found') :
    List.Forall₂ Near (found.filterMap id) (found'.filterMap id) :=
  List.rel_filterMap (fun _ _ same => same) h

theorem optionRel_near_refl : (x : Option Float) → Option.Rel Near x x
  | none => .none
  | some x => .some (.refl x)

/-! ## Blocks and their entries -/

/-- Blocks of one size with alike entries. -/
def Block.Alike (A : Allowance) (b b' : Block Value) : Prop := (Value.block b).Alike A (.block b')

namespace Block.Alike

variable {b b' : Block Value} {i j : Nat}

theorem cells (h : b.Alike A b') : List.Forall₂ (Value.Alike A) b.cells b'.cells := by
  cases h with
  | @block rows columns entry entry' h =>
    refine List.rel_flatten (List.forall₂_iff_get.2 ⟨by simp, fun i hi hi' => ?_⟩)
    refine List.forall₂_iff_get.2 ⟨by simp [Block.row], fun j hj hj' => ?_⟩
    simpa [Block.row] using h _ _

theorem transpose (h : b.Alike A b') : b.transpose.Alike A b'.transpose := by
  cases h with
  | block h => exact .block fun i j => h j i

theorem get? (h : b.Alike A b') : Option.Rel (Value.Alike A) (b.get? i j) (b'.get? i j) := by
  cases h with
  | block h =>
    unfold Block.get?
    dsimp only
    split
    · exact .some (h _ _)
    · exact .none

theorem getD_column? (h : b.Alike A b') :
    List.Forall₂ (Value.Alike A) ((b.column? j).getD []) ((b'.column? j).getD []) := by
  cases h with
  | block h =>
    unfold Block.column?
    dsimp only
    split
    · exact List.forall₂_iff_get.2 ⟨by simp [Block.column],
        fun i hi hi' => by simpa [Block.column] using h _ _⟩
    · exact .nil

end Block.Alike

namespace Argument

theorem block_alike (h : v.Alike A v') :
    RelatedOutcome (Value.Alike A) (Block.Alike A) (block v) (block v') := by
  cases h with
  | scalar h => exact .ok (.block fun _ _ => .scalar h)
  | error allowed => exact .error (.error allowed)
  | block h => exact .ok (.block h)

/-- Entries with alike values, both from a block or neither. -/
structure Entry.Alike (A : Allowance) (x y : Entry) : Prop where
  value : x.value.Alike A y.value
  inBlock : x.inBlock = y.inBlock

theorem flatten_alike (h : List.Forall₂ (Value.Alike A) args args') :
    List.Forall₂ (Entry.Alike A) (flatten args) (flatten args') := by
  refine List.rel_flatMap h fun v v' alike => ?_
  cases alike with
  | scalar h => exact .cons ⟨.scalar h, rfl⟩ .nil
  | error allowed => exact .cons ⟨.error allowed, rfl⟩ .nil
  | block h => exact List.rel_map (fun _ _ value => ⟨value, rfl⟩) (Block.Alike.cells (.block h))

theorem Entry.Alike.number? {x y : Entry} (h : x.Alike A y) :
    RelatedOutcome (Value.Alike A) (Option.Rel Near) x.number? y.number? := by
  obtain ⟨v, inBlock⟩ := x
  obtain ⟨w, _⟩ := y
  obtain ⟨value, rfl⟩ := h
  cases value with
  | scalar h =>
    cases h with
    | number near _ => exact .ok (.some near)
    | text s => exact .ok (optionRel_near_refl _)
    | bool b => exact .ok (optionRel_near_refl _)
    | blank => exact .ok .none
  | error allowed => exact .error (.error allowed)
  | block _ => exact .ok .none

theorem numbers_alike (h : List.Forall₂ (Value.Alike A) args args') :
    RelatedOutcome (Value.Alike A) (List.Forall₂ Near) (numbers args) (numbers args') :=
  (RelatedOutcome.mapM (flatten_alike h) Entry.Alike.number?).bind fun found =>
    .ok (forall₂_filterMap found)

variable {ns ns' : List Float}

theorem sum_near (h : List.Forall₂ Near ns ns') : Near (sum ns) (sum ns') :=
  List.rel_foldl (fun _ _ total _ _ next => total.add next) (.refl _) h

theorem product_near (h : List.Forall₂ Near ns ns') : Near (product ns) (product ns') :=
  List.rel_foldl (fun _ _ total _ _ next => total.mul next) (.refl _) h

theorem mean_near (h : List.Forall₂ Near ns ns') :
    RelatedOutcome (Value.Alike A) Near (mean ns) (mean ns') := by
  have quotient : Near (sum ns / Float.ofNat ns.length) (sum ns' / Float.ofNat ns'.length) := by
    rw [h.length_eq]
    exact (sum_near h).div_right _
  cases h with
  | nil => exact .refused (by decide)
  | cons _ _ => exact .ok quotient

end Argument

/-! ## What recalculation relies on -/

/-- Every number may be in a value, and every error but that of a loop. -/
def Allowance.noLoop : Allowance where
  number _ := True
  error e := e ≠ .cycle
  number_of_isFinite _ := trivial
  number_ofInt _ := trivial
  error_of_ne_cycle other := other

theorem Value.Alike.not_contains (h : v.Alike .noLoop v') : ¬ v.Contains .cycle := by
  intro contains
  induction h with
  | scalar _ => exact not_contains_scalar contains
  | error allowed => exact allowed (contains_error_iff.1 contains)
  | block _ ih =>
    cases contains with
    | entry i j contains => exact ih i j contains

theorem Value.alike_of_not_contains : ∀ {v : Value}, ¬ v.Contains .cycle → v.Alike .noLoop v
  | .scalar s, _ => by
    cases s with
    | number x => exact .scalar (.number (.refl x) trivial)
    | text s => exact .scalar (.text s)
    | bool b => exact .scalar (.bool b)
    | blank => exact .scalar .blank
  | .error _, free => .error fun cycle => free (contains_error_iff.2 cycle)
  | .block ⟨_, _, _⟩, free => .block fun i j => alike_of_not_contains fun contains =>
    free (.entry i j contains)

namespace Function

variable {f : Function}

/-- A function that takes alike arguments to alike results makes up no error of a loop. -/
theorem Respects.cycleSafe (h : f.Respects .noLoop) : f.CycleSafe := fun c _ free =>
  (h c (List.forall₂_same.2 fun v mem => Value.alike_of_not_contains (free v mem))).not_contains

/-- A function to which its circumstances make no difference, but for the clock if it is marked
volatile. -/
def GoesByClock (f : Function) : Prop :=
  ∀ c c' : Circumstances, (f.volatility = .volatile → c.now = c'.now) → f.compute c = f.compute c'

/-- A function that takes alike arguments to alike results, and draws nothing by chance, is
determined by its arguments and the clock. -/
theorem Respects.lawful (h : f.Respects .numbers) (clock : f.GoesByClock) : f.Lawful := by
  intro c c' args args' now same
  rw [clock c c' now]
  exact (h c' (same.imp fun _ _ => Value.Same.alike)).same

end Function

/-! ## Functions by the form of their results -/

variable {name : String} {arity : Arity} {policy : ArgumentPolicy}

theorem respects_of_arguments {compute : List Value → Value}
    (h : ∀ {args args'}, List.Forall₂ (Value.Alike A) args args' →
      (compute args).Alike A (compute args')) :
    (Function.ofArguments name arity policy compute).Respects A := fun _ _ _ => h

theorem respects_of_numbers {compute : List Value → Except ErrorCode Float}
    (h : ∀ {args args'}, List.Forall₂ (Value.Alike A) args args' →
      RelatedOutcome (Value.Alike A) Near (compute args) (compute args')) :
    (Function.ofArguments name arity policy (numberResult ∘ compute)).Respects A :=
  fun _ _ _ alike => alike_numberResult (h alike)

theorem respects_of_texts {compute : List Value → Except ErrorCode String}
    (h : ∀ {args args'}, List.Forall₂ (Value.Alike A) args args' →
      RelatedOutcome (Value.Alike A) Eq (compute args) (compute args')) :
    (Function.ofArguments name arity policy (textResult ∘ compute)).Respects A :=
  fun _ _ _ alike => alike_textResult (h alike)

theorem respects_of_values {compute : List Value → Except ErrorCode Value}
    (h : ∀ {args args'}, List.Forall₂ (Value.Alike A) args args' →
      RelatedOutcome (Value.Alike A) (Value.Alike A) (compute args) (compute args')) :
    (Function.ofArguments name arity policy (Value.ofExcept ∘ compute)).Respects A :=
  fun _ _ _ alike => (h alike).ofExcept

end Spreadsheet
