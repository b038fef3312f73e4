import Spreadsheet.Proofs.Evaluation.Related
import Spreadsheet.Proofs.Value.Same

/-!
# `Proofs/Evaluation/Lawful.lean` — same cells, same results

A function is *lawful* if what it computes is determined, up to `Value.Same`, by its arguments up to
`Value.Same`, and by the clock in case it is marked volatile. In particular it neither draws numbers
by chance nor counts its calls, and as it takes values without a not-a-number to a value that is the
same as itself, it makes no not-a-number.

A formula of lawful functions comes to the same over the same values (`Expr.evaluate_same`). The
operators are lawful without further ado, the power apart: its outcome is the platform's. Which of
the built-in functions are lawful is settled in `Proofs/Function/Respects/Library.lean`.
-/

set_option autoImplicit false

namespace Spreadsheet

/-! ## Operators -/

theorem Value.ofFloat_same {x y : Float} (h : Binary64.Near x y) :
    Same (ofFloat x) (ofFloat y) := by
  unfold ofFloat
  rw [← h.isFinite]
  cases finite : x.isFinite with
  | true => exact .scalar (h.beq_of_isFinite finite)
  | false => exact .error _

theorem numericOperation_same {f : Float → Float → Except ErrorCode Float}
    (hf : ∀ x x' y y', (x == x') = true → (y == y') = true → SameOutcome (f x y) (f x' y'))
    {v v' w w' : Value} (hv : v.Same v') (hw : w.Same w') :
    (numericOperation f v w).Same (numericOperation f v' w') := by
  unfold numericOperation
  rcases hv.toNumber with ⟨x, x', hx, hx', xx⟩ | ⟨e, hx, hx'⟩
  · rw [hx, hx']
    rcases hw.toNumber with ⟨y, y', hy, hy', yy⟩ | ⟨e, hy, hy'⟩
    · rw [hy, hy']
      rcases hf x x' y y' xx yy with ⟨z, z', hz, hz', zz⟩ | ⟨e, hz, hz'⟩
      · simp only [hz, hz']
        exact Value.ofFloat_same zz
      · simp only [hz, hz']
        exact .error e
    · rw [hy, hy']
      exact .error e
  · rw [hx, hx']
    exact .error e

theorem joinTexts_same {v v' w w' : Value} (hv : v.Same v') (hw : w.Same w') :
    (joinTexts v w).Same (joinTexts v' w') := by
  unfold joinTexts
  rw [← hv.toText_eq, ← hw.toText_eq]
  cases v.toText with
  | error e => exact .error e
  | ok s =>
    cases w.toText with
    | error e => exact .error e
    | ok t => exact .scalar (beq_self_eq_true (s ++ t))

/-- Operators respect `Same`. -/
theorem Operator.apply_same {op : Operator} (power : op = .power → Power.Respectful)
    {v v' w w' : Value} (hv : v.Same v') (hw : w.Same w') :
    (op.apply v w).Same (op.apply v' w') := by
  have truth : ∀ b : Bool, (Value.bool b).Same (.bool b) := fun b => .scalar (beq_self_eq_true b)
  cases op with
  | add =>
    exact numericOperation_same (fun _ _ _ _ hx hy =>
      .inl ⟨_, _, rfl, rfl, (Binary64.near_of_beq hx).add (Binary64.near_of_beq hy)⟩) hv hw
  | subtract =>
    exact numericOperation_same (fun _ _ _ _ hx hy =>
      .inl ⟨_, _, rfl, rfl, (Binary64.near_of_beq hx).sub (Binary64.near_of_beq hy)⟩) hv hw
  | multiply =>
    exact numericOperation_same (fun _ _ _ _ hx hy =>
      .inl ⟨_, _, rfl, rfl, (Binary64.near_of_beq hx).mul (Binary64.near_of_beq hy)⟩) hv hw
  | divide =>
    exact numericOperation_same (fun _ _ _ _ hx hy =>
      quotient_same (Binary64.near_of_beq hx) (Binary64.near_of_beq hy)) hv hw
  | power => exact numericOperation_same (fun _ _ _ _ hx hy => power_same (power rfl) hx hy) hv hw
  | concat => exact joinTexts_same hv hw
  -- Comparing looks at values only as far as `Same` does.
  | equal | notEqual =>
    unfold apply
    rw [hv.isEqual_eq hw]
    exact truth _
  | less | greater | lessEqual | greaterEqual =>
    unfold apply
    rw [hv.compare_eq hw]
    exact truth _

theorem Sign.apply_same {v v' : Value} (h : v.Same v') (sign : Sign) :
    (sign.apply v).Same (sign.apply v') := by
  unfold apply
  rcases h.toNumber with ⟨x, x', hx, hx', xx⟩ | ⟨e, hx, hx'⟩
  · rw [hx, hx']
    cases sign with
    | plus => exact .scalar xx
    | minus => exact .scalar (Binary64.beq_neg xx)
  · rw [hx, hx']
    exact .error e

/-- Evaluation respects `Same`. -/
theorem Value.same_respected : Value.Respected Value.Same where
  text s := .scalar (beq_self_eq_true s)
  bool b := .scalar (beq_self_eq_true b)
  error _ := .error _
  error? h := h.error?_eq
  unwrap h := h.unwrap
  sign h sign := Sign.apply_same h sign

/-! ## Functions -/

/-- A function determined by its arguments, and by the clock if it is volatile. -/
def Function.Lawful (f : Function) : Prop :=
  ∀ (c c' : Circumstances) (args args' : List Value), (f.volatility = .volatile → c.now = c'.now) →
    List.Forall₂ Value.Same args args' → (f.compute c args).Same (f.compute c' args')

/-- What a registry must hold for a formula, part by part: numbers are numbers, the functions called
are lawful, and powers are what they are relied on to be. -/
def Expr.LawfulPart (registry : Registry) : Expr → Prop
  | .number x => (x == x) = true
  | .binary .power _ _ => Power.Respectful
  | .call function _ => ∀ f, registry.find? function = some f → f.Lawful
  | _ => True

/-- A formula of lawful functions. -/
def Expr.Lawful (registry : Registry) (e : Expr) : Prop :=
  ∀ part ∈ e.parts, part.LawfulPart registry

/-- A formula that calls stable functions only. -/
def Expr.Stable (registry : Registry) (e : Expr) : Prop :=
  ∀ name args, .call name args ∈ e.parts → ∀ f, registry.find? name = some f →
    f.volatility = .stable

namespace Expr

variable {env env' : Environment} {registry : Registry} {e : Expr}

/-- Whether a formula makes do with some functions and without powers, and has no not-a-number in
it. -/
def callsOnly (names : List String) (e : Expr) : Bool :=
  e.parts.all fun
    | .number x => x == x
    | .binary .power _ _ => false
    | .call function _ => names.contains function
    | _ => true

theorem mem_of_callsOnly {names : List String} (h : e.callsOnly names = true) {function : String}
    {args : List Expr} (called : .call function args ∈ e.parts) : function ∈ names :=
  List.contains_iff_mem.1 (List.all_eq_true.1 h _ called)

theorem lawful_of_callsOnly {names : List String} (h : e.callsOnly names = true)
    (functions : ∀ name ∈ names, ∀ f, registry.find? name = some f → f.Lawful) :
    e.Lawful registry := by
  intro part hp
  have allowed := List.all_eq_true.1 h part hp
  cases part with
  | number x => exact allowed
  | binary op lhs rhs =>
    cases op with
    | power => cases allowed
    | _ => trivial
  | call function args => exact functions function (mem_of_callsOnly h hp)
  | _ => trivial

theorem stable_of_callsOnly {names : List String} (h : e.callsOnly names = true)
    (functions : ∀ name ∈ names, ∀ f, registry.find? name = some f → f.volatility = .stable) :
    e.Stable registry := by
  intro function args called
  exact functions function (mem_of_callsOnly h called)

/-- A lawful formula comes to the same over the same values, whatever was called before; it comes to
the same at different times if it calls stable functions only. -/
theorem evaluate_same (lawful : e.Lawful env.registry)
    (find : ∀ name args, .call name args ∈ e.parts →
      env'.registry.find? name = env.registry.find? name)
    (clock : env.now = env'.now ∨ e.Stable env.registry)
    (cells : ∀ a, .cell a ∈ e.parts → (env.cell a).Same (env'.cell a))
    (ranges : ∀ r, .range r ∈ e.parts → (env.range r).Same (env'.range r))
    (calls calls' : CallCounts) :
    (e.evaluate env calls).1.Same (e.evaluate env' calls').1 := by
  have related : ∀ part ∈ e.parts, env.Relates env' Value.Same (fun _ _ => True) part := by
    intro part hp
    have lawful := lawful part hp
    cases part with
    | number x => exact .scalar lawful
    | cell a => exact cells a hp
    | range r => exact ranges r hp
    | binary op lhs rhs =>
      intro x x' y y' hx hy
      refine Operator.apply_same (fun isPower => ?_) hx hy
      subst isPower
      exact lawful
    | call name args =>
      refine Environment.relatesCalls Value.same_respected (fun _ _ => trivial)
        (find name args hp) ?_
      intro f found as as' calls calls' rs _
      -- A volatile function may look at the clock, so the times have to agree or there is none.
      refine lawful f found _ _ as as' (fun volatile => ?_) rs
      rcases clock with now | stable
      · exact now
      · exact absurd ((stable name args hp f found).symm.trans volatile) (by decide)
    | _ => trivial
  exact (eval_related Value.same_respected e related trivial).1.asResult

end Expr

end Spreadsheet
