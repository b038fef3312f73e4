import Spreadsheet.Proofs.Evaluation.Related
import Spreadsheet.Proofs.Formula.Canonical
import Spreadsheet.Proofs.Function.Finite

/-!
# `Proofs/Evaluation/Finite.lean` — when a formula comes to a finite value

Operators turn a number that is not finite into an error, and so does every function but the
conditional totals. So over finite cells a formula comes to a finite value, unless a conditional
total adds up numbers that leave their range and what it comes to gets through to the result
(`Overflows`). It does through a sign, and through functions that choose or look up; every other
operation on it ends in an error.

Of a formula that calls no conditional total nothing has to be asked (`not_overflows_of_noTotal`).

The condition is followed through a formula from the outside in, call by call, as far as values
are handed on unchanged.
-/

set_option autoImplicit false

namespace Spreadsheet

/-! ## Operators -/

theorem isFinite_numericOperation (f : Float → Float → Except ErrorCode Float) (x y : Value) :
    (numericOperation f x y).IsFinite := by
  unfold numericOperation
  split
  next =>
    split
    next => exact Value.isFinite_ofFloat _
    next => exact .error _
  next => exact .error _
  next => exact .error _

theorem isFinite_joinTexts (x y : Value) : (joinTexts x y).IsFinite := by
  unfold joinTexts
  split
  next => exact .scalar trivial
  next => exact .error _
  next => exact .error _

/-- An operator comes to a finite value, whatever its operands are. -/
theorem Operator.isFinite_apply (op : Operator) (x y : Value) : (op.apply x y).IsFinite := by
  cases op with
  | add => exact isFinite_numericOperation (fun a b => .ok (a + b)) x y
  | subtract => exact isFinite_numericOperation (fun a b => .ok (a - b)) x y
  | multiply => exact isFinite_numericOperation (fun a b => .ok (a * b)) x y
  | divide => exact isFinite_numericOperation quotient x y
  | power => exact isFinite_numericOperation Spreadsheet.power x y
  | concat => exact isFinite_joinTexts x y
  | equal | notEqual | less | greater | lessEqual | greaterEqual => exact .scalar trivial

theorem Value.IsFinite.sign {v : Value} (h : v.IsFinite) (sign : Sign) :
    (sign.apply v).IsFinite := by
  unfold Sign.apply
  cases hx : v.toNumber with
  | error e => exact .error e
  | ok x =>
    cases sign with
    | plus => exact .scalar (h.toNumber hx)
    | minus => exact .scalar (Binary64.isFinite_neg (h.toNumber hx))

/-! ## Environments -/

namespace Environment

/-- The cells are finite, the clock shows a time that there is, and the functions are the built-in
ones. -/
structure IsFinite (env : Environment) (engine : Regex.Engine) : Prop where
  library : env.registry = Registry.library engine
  clock : env.now.IsValid
  cells : ∀ a, (env.cells.value a).IsFinite

variable {engine : Regex.Engine} {env : Environment}

theorem IsFinite.cell (h : env.IsFinite engine) (a : Address) : (env.cell a).IsFinite := by
  unfold Environment.cell
  split
  next => exact .error _
  next => exact h.cells a

/-- A range that is not too large has no more cells than 64 bits can count. -/
theorem IsFinite.range (h : env.IsFinite engine) (r : Range) : (env.range r).IsFinite := by
  unfold Environment.range
  split
  next admitted =>
    refine .block ?_ fun i j => h.cells _
    obtain ⟨-, admitted⟩ := Bool.and_eq_true_iff.1 admitted
    obtain ⟨n, size, -⟩ := (Option.any_eq_true _ _).1 admitted
    unfold Range.size? at size
    split at size
    next few => exact few
    next => cases size
  next => exact .error _

/-- An invocation comes to what the call comes to. -/
theorem invoke_fst (f : Function) (args : List Value) (calls : CallCounts) :
    (env.invoke f args calls).1 = f.call ⟨env.now, env.seed, calls.count f.name⟩ args := by
  unfold invoke Function.call
  cases f.accepted args <;> rfl

end Environment

/-! ## Formulas -/

namespace Expr

/-- What is asked of one part: a literal is finite, and a call has no more arguments than 64 bits
can count. -/
def FinitePart : Expr → Prop
  | .number x => x.isFinite = true
  | .call _ args => args.length < Range.countLimit
  | _ => True

/-- A formula with finite literals, and with calls whose arguments can be counted. -/
def IsFinite (e : Expr) : Prop := ∀ part ∈ e.parts, part.FinitePart

mutual

/-- Whether a conditional total adds up numbers that leave their range where nothing stands
between it and the result that would make an error of it, as every operator between two operands
does, and every function that is not given its arguments as they are. -/
def Overflows (engine : Regex.Engine) (env : Environment) : Expr → CallCounts → Prop
  | .unary _ operand, calls => operand.Overflows engine env calls
  | .call function args, calls => ∃ f, env.registry.find? function = some f ∧
      (f.Overflows engine (evalEach env args calls).1 ∨
        f.TakesWhole ∧ OverflowsEach engine env args calls)
  | _, _ => False
termination_by structural e => e

/-- Whether one does among arguments. -/
def OverflowsEach (engine : Regex.Engine) (env : Environment) : List Expr → CallCounts → Prop
  | [], _ => False
  | e :: more, calls =>
    e.Overflows engine env calls ∨ OverflowsEach engine env more (e.eval env calls).2
termination_by structural es => es

end

variable {engine : Regex.Engine} {env : Environment} {e : Expr}

theorem length_evalEach (es : List Expr) (calls : CallCounts) :
    (evalEach env es calls).1.length = es.length := by
  induction es generalizing calls with
  | nil => rfl
  | cons e es ih => exact congrArg (· + 1) (ih _)

mutual

/-- Over finite cells a formula comes to a finite value, unless a conditional total overflows on
the way. -/
theorem eval_isFinite (finite : env.IsFinite engine) :
    ∀ (e : Expr), (∀ part ∈ e.parts, part.FinitePart) → ∀ {calls : CallCounts},
    ¬ e.Overflows engine env calls → (e.eval env calls).1.IsFinite
  | .number x, parts, _, _ => .scalar (parts (.number x) (self_mem_parts _))
  | .text _, _, _, _ => .scalar trivial
  | .bool _, _, _, _ => .scalar trivial
  | .cell a, _, _, _ => finite.cell a
  | .range r, _, _, _ => finite.range r
  | .name s, _, _, _ => by
    obtain ⟨e, he, -⟩ := ofName_ne_cycle s
    show (ofName s).IsFinite
    rw [he]
    exact .error e
  | .unary sign operand, parts, calls, safe => by
    have value :=
      eval_isFinite finite operand (fun part hp => parts part (List.mem_cons_of_mem _ hp)) safe
    exact value.unwrap.sign sign
  | .binary op lhs rhs, parts, calls, safe => by
    -- Whatever the operands are, the operator comes to a finite value or passes on an error.
    cases he : (lhs.eval env calls).1.unwrap.error? with
    | some e =>
      rw [eval_binary_of_left rfl he]
      exact .error e
    | none =>
      cases he' : (rhs.eval env (lhs.eval env calls).2).1.unwrap.error? with
      | some e =>
        rw [eval_binary_of_right rfl he rfl he']
        exact .error e
      | none =>
        rw [eval_binary_of_values rfl he rfl he']
        exact op.isFinite_apply _ _
  | .call function args, parts, calls, safe => by
    rw [eval_call]
    cases found : env.registry.find? function with
    | none => exact .error _
    | some f =>
      -- Where arguments are taken as they are, blocks and all, they have to be finite themselves.
      simp only [Overflows, found, Option.some.injEq, exists_eq_left', not_or, not_and] at safe
      have values (whole : f.TakesWhole) : FiniteArguments (evalEach env args calls).1 := by
        refine ⟨?_, evalEach_isFinite finite args
          (fun part hp => parts part (List.mem_cons_of_mem _ hp)) (safe.2 whole)⟩
        rw [length_evalEach]
        exact parts (.call function args) (self_mem_parts _)
      show (env.invoke f _ _).1.IsFinite
      rw [Environment.invoke_fst]
      exact (call_isFinite_iff (finite.library ▸ found) finite.clock values).2 safe.1

theorem evalEach_isFinite (finite : env.IsFinite engine) :
    ∀ (es : List Expr), (∀ part ∈ partsEach es, part.FinitePart) →
    ∀ {calls : CallCounts}, ¬ OverflowsEach engine env es calls →
    ∀ v ∈ (evalEach env es calls).1, v.IsFinite
  | [], _, _, _, v, hv => by cases hv
  | e :: more, parts, calls, safe, v, hv => by
    obtain ⟨first, rest⟩ := not_or.1 safe
    rcases List.mem_cons.1 hv with rfl | hv
    · exact eval_isFinite finite e (fun part hp => parts part (List.mem_append_left _ hp)) first
    · exact evalEach_isFinite finite more
        (fun part hp => parts part (List.mem_append_right _ hp)) rest v hv

end

/-- A part that is no call of a conditional total. -/
def NoTotal : Expr → Prop
  | .call function _ =>
    ¬ (Text.latinUpper function = "SUMIF" ∨ Text.latinUpper function = "AVERAGEIF")
  | _ => True

/-- A formula that calls no conditional total. -/
def WithoutTotals (e : Expr) : Prop := ∀ part ∈ e.parts, part.NoTotal

mutual

/-- Where no conditional total is called, none overflows. -/
theorem not_overflows_of_noTotal (library : env.registry = Registry.library engine) : ∀ (e : Expr),
    (∀ part ∈ e.parts, part.NoTotal) → ∀ {calls : CallCounts}, ¬ e.Overflows engine env calls
  | .unary sign operand, other, calls =>
    not_overflows_of_noTotal library operand fun part hp => other part (List.mem_cons_of_mem _ hp)
  | .call function args, other, calls => by
    rintro ⟨f, found, ⟨total, -⟩ | ⟨-, overflows⟩⟩
    · rw [(mem_library (library ▸ found)).2] at total
      exact other (.call function args) (self_mem_parts _) total
    · exact not_overflowsEach_of_noTotal library args
        (fun part hp => other part (List.mem_cons_of_mem _ hp)) overflows
  | .number _, _, _ | .text _, _, _ | .bool _, _, _ | .cell _, _, _ | .range _, _, _
  | .name _, _, _ | .binary .., _, _ => id

theorem not_overflowsEach_of_noTotal (library : env.registry = Registry.library engine) :
    ∀ (es : List Expr),
    (∀ part ∈ partsEach es, part.NoTotal) →
    ∀ {calls : CallCounts}, ¬ OverflowsEach engine env es calls
  | [], _, _ => id
  | e :: more, other, calls => by
    rintro (first | rest)
    · exact not_overflows_of_noTotal library e
        (fun part hp => other part (List.mem_append_left _ hp)) first
    · exact not_overflowsEach_of_noTotal library more
        (fun part hp => other part (List.mem_append_right _ hp)) rest

end

instance : DecidablePred NoTotal
  | .call function _ => inferInstanceAs
      (Decidable (¬ (Text.latinUpper function = "SUMIF" ∨ Text.latinUpper function = "AVERAGEIF")))
  | .number _ | .text _ | .bool _ | .cell _ | .range _ | .name _ | .unary .. | .binary .. =>
    isTrue trivial

instance : DecidablePred WithoutTotals :=
  fun e => inferInstanceAs (Decidable (∀ part ∈ e.parts, part.NoTotal))

instance : DecidablePred FinitePart
  | .number x => inferInstanceAs (Decidable (x.isFinite = true))
  | .call _ args => inferInstanceAs (Decidable (args.length < Range.countLimit))
  | .text _ | .bool _ | .cell _ | .range _ | .name _ | .unary .. | .binary .. => isTrue trivial

instance : DecidablePred IsFinite :=
  fun e => inferInstanceAs (Decidable (∀ part ∈ e.parts, part.FinitePart))

theorem evaluate_isFinite (finite : env.IsFinite engine) (h : e.IsFinite) {calls : CallCounts}
    (safe : ¬ e.Overflows engine env calls) :
    (e.evaluate env calls).1.IsFinite :=
  (eval_isFinite finite e h safe).asResult

end Expr

end Spreadsheet
