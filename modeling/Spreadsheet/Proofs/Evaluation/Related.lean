import Mathlib
import Spreadsheet.Evaluation
import Spreadsheet.Formula.Reference
import Spreadsheet.Proofs.Value.Outcome

/-!
# `Proofs/Evaluation/Related.lean` — evaluation respects what its operations respect

Several things have to be known about what a formula comes to when something about its environment
changes: that equal values of the cells it reads give equal results, that unchanged ones give
unchanged results, that an error nowhere among them is not in the result either. Each is an
induction over formulas, and it is the same one: **two evaluations have related results as soon as
their parts are related**, part by part of the formula.

The relation between values is arbitrary up to a few laws (`Value.Respected`), and so is the one
between the counts of calls, which evaluation passes on. What is asked of a part
(`Environment.Relates`) depends on nothing but the part, so what a formula reads enters as its
reference parts and what it calls as its call parts, and nothing else of the environment matters.
-/

set_option autoImplicit false

namespace Spreadsheet

/-- Capitals have no other capitals. -/
theorem latinUpper_latinUpper (s : String) :
    Text.latinUpper (Text.latinUpper s) = Text.latinUpper s := by
  unfold Text.latinUpper
  rw [String.toList_ofList, List.map_map]
  congr 1
  exact List.map_congr_left fun c _ => c.toUpper_toUpper_eq_toUpper

/-! ## The parts of a formula -/

namespace Expr

mutual

/-- A formula and all formulas inside it. -/
def parts : Expr → List Expr
  | .unary sign operand => .unary sign operand :: operand.parts
  | .binary op lhs rhs => .binary op lhs rhs :: (lhs.parts ++ rhs.parts)
  | .call function args => .call function args :: partsEach args
  | e => [e]
termination_by structural e => e

/-- All formulas inside arguments. -/
def partsEach : List Expr → List Expr
  | [] => []
  | e :: more => e.parts ++ partsEach more
termination_by structural es => es

end

theorem self_mem_parts (e : Expr) : e ∈ e.parts := by
  cases e <;> simp [parts]

/-- What a formula that is nothing but a reference refers to. -/
def reference? : Expr → Option Reference
  | .cell a => some (.cell a)
  | .range r => some (.range r)
  | _ => none

mutual

/-- What the parts of a formula refer to is among its references. -/
theorem mem_references_of_part {part : Expr} {r : Reference} (hr : part.reference? = some r) :
    ∀ {e : Expr}, part ∈ e.parts → r ∈ e.references
  | .unary _ operand, h => by
    simp only [parts, List.mem_cons] at h
    rcases h with rfl | h
    · cases hr
    · exact (mem_references_of_part hr h : r ∈ operand.references)
  | .binary _ lhs rhs, h => by
    simp only [parts, List.mem_cons, List.mem_append] at h
    simp only [references, List.mem_append]
    rcases h with rfl | h | h
    · cases hr
    · exact .inl (mem_references_of_part hr h)
    · exact .inr (mem_references_of_part hr h)
  | .call _ args, h => by
    simp only [parts, List.mem_cons] at h
    rcases h with rfl | h
    · cases hr
    · exact (mem_referencesEach_of_part hr h : r ∈ referencesEach args)
  | .cell _, h | .range _, h => by
    simp only [parts, List.mem_singleton] at h
    subst h
    cases hr
    exact List.mem_singleton.2 rfl
  | .number _, h | .text _, h | .bool _, h | .name _, h => by
    simp only [parts, List.mem_singleton] at h
    subst h
    cases hr

theorem mem_referencesEach_of_part {part : Expr} {r : Reference} (hr : part.reference? = some r) :
    ∀ {es : List Expr}, part ∈ partsEach es → r ∈ referencesEach es
  | [], h => by simp [partsEach] at h
  | e :: more, h => by
    simp only [partsEach, List.mem_append] at h
    simp only [referencesEach, List.mem_append]
    rcases h with h | h
    · exact .inl (mem_references_of_part hr h)
    · exact .inr (mem_referencesEach_of_part hr h)

end

mutual

/-- The functions that a formula calls are among its calls, in capitals. -/
theorem call_mem_calls {name : String} {args : List Expr} :
    ∀ {e : Expr}, .call name args ∈ e.parts → Text.latinUpper name ∈ e.calls
  | .call function more, h => by
    simp only [parts, List.mem_cons, call.injEq] at h
    simp only [calls, List.mem_cons]
    rcases h with ⟨rfl, -⟩ | h
    · exact .inl rfl
    · exact .inr (call_mem_callsEach h)
  | .unary _ operand, h => by
    simp only [parts, List.mem_cons, reduceCtorEq, false_or] at h
    simp only [calls]
    exact call_mem_calls h
  | .binary _ lhs rhs, h => by
    simp only [parts, List.mem_cons, reduceCtorEq, false_or, List.mem_append] at h
    simp only [calls, List.mem_append]
    rcases h with h | h
    · exact .inl (call_mem_calls h)
    · exact .inr (call_mem_calls h)
  | .number _, h | .text _, h | .bool _, h | .cell _, h | .range _, h | .name _, h => by
    simp [parts] at h

theorem call_mem_callsEach {name : String} {args : List Expr} :
    ∀ {es : List Expr}, .call name args ∈ partsEach es → Text.latinUpper name ∈ callsEach es
  | [], h => by simp [partsEach] at h
  | e :: more, h => by
    simp only [partsEach, List.mem_append] at h
    simp only [callsEach, List.mem_append]
    rcases h with h | h
    · exact .inl (call_mem_calls h)
    · exact .inr (call_mem_callsEach h)

end

mutual

/-- Calls are listed in capitals. -/
theorem latinUpper_of_mem_calls {name : String} :
    ∀ {e : Expr}, name ∈ e.calls → Text.latinUpper name = name
  | .call function args, h => by
    simp only [calls, List.mem_cons] at h
    rcases h with rfl | h
    · exact latinUpper_latinUpper function
    · exact latinUpper_of_mem_callsEach h
  | .unary _ operand, h => by
    simp only [calls] at h
    exact latinUpper_of_mem_calls h
  | .binary _ lhs rhs, h => by
    simp only [calls, List.mem_append] at h
    rcases h with h | h
    · exact latinUpper_of_mem_calls h
    · exact latinUpper_of_mem_calls h
  | .number _, h | .text _, h | .bool _, h | .cell _, h | .range _, h | .name _, h => by
    simp [calls] at h

theorem latinUpper_of_mem_callsEach {name : String} :
    ∀ {es : List Expr}, name ∈ callsEach es → Text.latinUpper name = name
  | [], h => by simp [callsEach] at h
  | e :: more, h => by
    simp only [callsEach, List.mem_append] at h
    rcases h with h | h
    · exact latinUpper_of_mem_calls h
    · exact latinUpper_of_mem_callsEach h

end

/-- Keeping the first of equal entries loses no entry. -/
theorem mem_firstOfEach {α : Type} [BEq α] [LawfulBEq α] {x : α} {xs : List α} :
    x ∈ firstOfEach xs ↔ x ∈ xs := by
  -- The entries that are kept are those that were seen before and the new ones, in any order.
  have fold : ∀ (xs seen : List α),
      x ∈ xs.foldl (fun seen x => if seen.contains x then seen else x :: seen) seen ↔
      x ∈ xs ∨ x ∈ seen := by
    intro xs
    induction xs with
    | nil => simp
    | cons y ys ih =>
      intro seen
      rw [List.foldl_cons, ih]
      by_cases hy : seen.contains y = true
      · rw [if_pos hy]
        simp only [List.contains_iff_mem] at hy
        constructor
        · rintro (h | h)
          · exact .inl (List.mem_cons_of_mem _ h)
          · exact .inr h
        · rintro (h | h)
          · rcases List.mem_cons.1 h with rfl | h
            · exact .inr hy
            · exact .inl h
          · exact .inr h
      · rw [if_neg hy]
        rw [List.mem_cons, List.mem_cons, or_left_comm, or_assoc]
  unfold firstOfEach
  rw [List.mem_reverse, fold]
  simp only [List.not_mem_nil, or_false]

end Expr

/-! ## Relations that evaluation respects -/

/-- What a relation between values must satisfy for formulas to respect it: the values that are made
without looking at others are related to themselves, errors are related to nothing but themselves,
and the two operations that every formula goes through preserve it. -/
structure Value.Respected (R : Value → Value → Prop) : Prop where
  text (s : String) : R (.text s) (.text s)
  bool (b : Bool) : R (.bool b) (.bool b)
  error {e : ErrorCode} (h : e ≠ .cycle) : R (.error e) (.error e)
  error? {v v' : Value} (h : R v v') : v.error? = v'.error?
  unwrap {v v' : Value} (h : R v v') : R v.unwrap v'.unwrap
  sign {v v' : Value} (h : R v v') (sign : Sign) : R (sign.apply v) (sign.apply v')

/-- An error is related to itself if a value that is it is related to another. -/
theorem Value.Respected.of_error? {R : Value → Value → Prop} (respected : Value.Respected R)
    {v v' : Value} (h : R v v') {e : ErrorCode} (he : v.error? = some e) :
    R (.error e) (.error e) := by
  have he' : v'.error? = some e := respected.error? h ▸ he
  cases v <;> cases he
  cases v' <;> cases he'
  exact h

section
variable {R : Value → Value → Prop} {args args' : List Value}

/-- Related arguments have the same first error, which is related to itself. -/
theorem Value.Respected.firstError (respected : Value.Respected R) (h : List.Forall₂ R args args') :
    args.findSome? Value.error? = args'.findSome? Value.error? ∧
      ∀ e, args.findSome? Value.error? = some e → R (.error e) (.error e) := by
  induction h with
  | nil => exact ⟨rfl, by simp⟩
  | @cons v v' _ _ hv _ ih =>
    simp only [List.findSome?_cons, ← respected.error? hv]
    cases he : v.error? with
    | none => exact ih
    | some e =>
      refine ⟨rfl, fun e' found => ?_⟩
      cases found
      exact respected.of_error? hv he

/-- Arguments are unwrapped one by one, up to the first error. -/
theorem ArgumentPolicy.scalar_related (respected : Value.Respected R)
    (h : List.Forall₂ R args args') :
    RelatedOutcome R (List.Forall₂ R) (ArgumentPolicy.scalar.apply args)
    (ArgumentPolicy.scalar.apply args') := by
  refine RelatedOutcome.mapM h fun {v v'} hv => ?_
  have unwrapped := respected.unwrap hv
  simp only [← respected.error? unwrapped]
  cases he : v.unwrap.error? with
  | some e => exact .error (respected.of_error? unwrapped he)
  | none => exact .ok unwrapped

/-- Related arguments are made related ones, or are refused for the same reason. -/
theorem ArgumentPolicy.apply_related (respected : Value.Respected R) (policy : ArgumentPolicy)
    (h : List.Forall₂ R args args') :
    RelatedOutcome R (List.Forall₂ R) (policy.apply args) (policy.apply args') := by
  cases policy with
  | raw => exact .ok h
  | scalar => exact scalar_related respected h
  | aggregate | lookup =>
    obtain ⟨same, error⟩ := respected.firstError h
    simp only [apply, ← same]
    cases found : args.findSome? Value.error? with
    | none => exact .ok h
    | some e => exact .error (error e found)

end

/-- Whether calls by a name, in two environments, take related arguments to related results. -/
def Environment.RelatesCalls (env env' : Environment) (R : Value → Value → Prop)
    (Q : CallCounts → CallCounts → Prop) (name : String) : Prop :=
  match env.registry.find? name, env'.registry.find? name with
  | none, none => True
  | some f, some f' => ∀ args args' calls calls', List.Forall₂ R args args' → Q calls calls' →
      R (env.invoke f args calls).1 (env'.invoke f' args' calls').1 ∧
        Q (env.invoke f args calls).2 (env'.invoke f' args' calls').2
  | _, _ => False

/-- If a name stands for one function in both, it is enough that the function itself takes related
arguments to related results; arguments are refused, and calls are counted, alike. -/
theorem Environment.relatesCalls {env env' : Environment} {R : Value → Value → Prop}
    {Q : CallCounts → CallCounts → Prop} (respected : Value.Respected R)
    (counted : ∀ {calls calls' : CallCounts}, Q calls calls' →
      ∀ name, Q (calls.increment name) (calls'.increment name))
    {name : String} (find : env'.registry.find? name = env.registry.find? name)
    (computed : ∀ f, env.registry.find? name = some f →
        ∀ args args' calls calls', List.Forall₂ R args args' →
      Q calls calls' → R (f.compute ⟨env.now, env.seed, calls.count f.name⟩ args)
        (f.compute ⟨env'.now, env'.seed, calls'.count f.name⟩ args')) :
    env.RelatesCalls env' R Q name := by
  unfold RelatesCalls
  rw [find]
  cases found : env.registry.find? name with
  | none => trivial
  | some f =>
    intro args args' calls calls' h q
    -- The number of arguments is the same, so both calls are refused for it or neither.
    have accepted : RelatedOutcome R (List.Forall₂ R) (f.accepted args) (f.accepted args') := by
      unfold Function.accepted
      rw [h.length_eq]
      split
      · exact f.policy.apply_related respected h
      · exact .error (respected.error (by decide))
    unfold invoke
    rcases accepted with ⟨as, as', has, has', rs⟩ | ⟨e, he, he', r⟩
    · rw [has, has']
      exact ⟨computed f found as as' calls calls' rs q, counted q f.name⟩
    · rw [he, he']
      exact ⟨r, q⟩

/-- Whether two environments have related values for a part of a formula, or, for a part that
operates on values, take related ones to related ones. -/
def Environment.Relates (env env' : Environment) (R : Value → Value → Prop)
    (Q : CallCounts → CallCounts → Prop) : Expr → Prop
  | .number x => R (.number x) (.number x)
  | .cell a => R (env.cell a) (env'.cell a)
  | .range r => R (env.range r) (env'.range r)
  | .binary op _ _ => ∀ x x' y y', R x x' → R y y' → R (op.apply x y) (op.apply x' y')
  | .call name _ => env.RelatesCalls env' R Q name
  | _ => True

namespace Expr

variable {env env' : Environment} {R : Value → Value → Prop} {Q : CallCounts → CallCounts → Prop}

section
variable {op : Operator} {lhs rhs : Expr} {x y : Value} {e : ErrorCode}
    {calls calls₁ calls₂ : CallCounts}

/-- If the first operand is an error, the second is not evaluated. -/
theorem eval_binary_of_left (hx : lhs.eval env calls = (x, calls₁))
    (he : x.unwrap.error? = some e) :
    (Expr.binary op lhs rhs).eval env calls = (.error e, calls₁) := by
  rw [eval]
  simp only [bind, StateT.bind, hx]
  cases hv : x.unwrap <;> rw [hv] at he <;> cases he
  rfl

theorem eval_binary_of_right (hx : lhs.eval env calls = (x, calls₁)) (hx' : x.unwrap.error? = none)
    (hy : rhs.eval env calls₁ = (y, calls₂)) (he : y.unwrap.error? = some e) :
    (Expr.binary op lhs rhs).eval env calls = (.error e, calls₂) := by
  rw [eval]
  simp only [bind, StateT.bind, hx]
  cases hv : x.unwrap <;> rw [hv] at hx' <;> cases hx'
  all_goals
    simp only [bind, StateT.bind, hy]
    cases hw : y.unwrap <;> rw [hw] at he <;> cases he
    rfl

theorem eval_binary_of_values (hx : lhs.eval env calls = (x, calls₁)) (hx' : x.unwrap.error? = none)
    (hy : rhs.eval env calls₁ = (y, calls₂)) (hy' : y.unwrap.error? = none) :
    (Expr.binary op lhs rhs).eval env calls = (op.apply x.unwrap y.unwrap, calls₂) := by
  rw [eval]
  simp only [bind, StateT.bind, hx]
  cases hv : x.unwrap <;> rw [hv] at hx' <;> cases hx'
  all_goals
    simp only [bind, StateT.bind, hy]
    cases hw : y.unwrap <;> rw [hw] at hy' <;> cases hy'
    all_goals rfl

end

/-- What a call comes to: an unknown function is not called, and its arguments are not looked at. -/
theorem eval_call (function : String) (args : List Expr) (calls : CallCounts) :
    (Expr.call function args).eval env calls =
      match env.registry.find? function with
      | none => (.error .unknownName, calls)
      | some f => env.invoke f (evalEach env args calls).1 (evalEach env args calls).2 := by
  rw [eval]
  cases env.registry.find? function <;> rfl

/-- A bare name comes to an error, and not to that of a loop. -/
theorem ofName_ne_cycle (s : String) : ∃ e, ofName s = .error e ∧ e ≠ .cycle := by
  unfold ofName
  split
  · exact ⟨.badReference, rfl, by decide⟩
  · exact ⟨.unknownName, rfl, by decide⟩

mutual

/-- Formulas whose parts are related have related results. -/
theorem eval_related (respected : Value.Respected R) :
    ∀ (e : Expr), (∀ part ∈ e.parts, env.Relates env' R Q part) →
    ∀ {calls calls' : CallCounts}, Q calls calls' →
      R (e.eval env calls).1 (e.eval env' calls').1 ∧ Q (e.eval env calls).2 (e.eval env' calls').2
  | .number x, h, _, _, q => ⟨h (.number x) (self_mem_parts _), q⟩
  | .text s, _, _, _, q => ⟨respected.text s, q⟩
  | .bool b, _, _, _, q => ⟨respected.bool b, q⟩
  | .cell a, h, _, _, q => ⟨h (.cell a) (self_mem_parts _), q⟩
  | .range r, h, _, _, q => ⟨h (.range r) (self_mem_parts _), q⟩
  | .name s, _, _, _, q => by
    obtain ⟨e, he, ne⟩ := ofName_ne_cycle s
    refine ⟨?_, q⟩
    show R (ofName s) (ofName s)
    rw [he]
    exact respected.error ne
  | .unary sign operand, h, calls, calls', q => by
    obtain ⟨r, q⟩ := eval_related respected operand
      (fun part hp => h part (List.mem_cons_of_mem _ hp)) q
    exact ⟨respected.sign (respected.unwrap r) sign, q⟩
  | .binary op lhs rhs, h, calls, calls', q => by
    obtain ⟨hx, q⟩ := eval_related respected lhs
      (fun part hp => h part (List.mem_cons_of_mem _ (List.mem_append_left _ hp))) q
    obtain ⟨hy, q'⟩ := eval_related respected rhs
      (fun part hp => h part (List.mem_cons_of_mem _ (List.mem_append_right _ hp))) q
    have hx := respected.unwrap hx
    have hy := respected.unwrap hy
    -- Related values are errors together, so both evaluations stop at the same operand.
    have ex := respected.error? hx
    have ey := respected.error? hy
    cases he : (lhs.eval env calls).1.unwrap.error? with
    | some e =>
      rw [eval_binary_of_left rfl he, eval_binary_of_left rfl (ex ▸ he)]
      exact ⟨respected.of_error? hx he, q⟩
    | none =>
      cases he' : (rhs.eval env (lhs.eval env calls).2).1.unwrap.error? with
      | some e =>
        rw [eval_binary_of_right rfl he rfl he', eval_binary_of_right rfl (ex ▸ he) rfl (ey ▸ he')]
        exact ⟨respected.of_error? hy he', q'⟩
      | none =>
        rw [eval_binary_of_values rfl he rfl he',
          eval_binary_of_values rfl (ex ▸ he) rfl (ey ▸ he')]
        exact ⟨h (.binary op lhs rhs) (self_mem_parts _) _ _ _ _ hx hy, q'⟩
  | .call function args, h, calls, calls', q => by
    -- A call of what is no function evaluates no arguments, and leaves the counts as they are.
    obtain ⟨rs, q'⟩ :=
      evalEach_related respected args (fun part hp => h part (List.mem_cons_of_mem _ hp)) q
    have found : env.RelatesCalls env' R Q function := h (.call function args) (self_mem_parts _)
    unfold Environment.RelatesCalls at found
    rw [eval_call, eval_call]
    split at found
    case h_1 hf hf' =>
      rw [hf, hf']
      exact ⟨respected.error (by decide), q⟩
    case h_2 f f' hf hf' =>
      rw [hf, hf']
      exact found _ _ _ _ rs q'
    case h_3 => exact found.elim

theorem evalEach_related (respected : Value.Respected R) : ∀ (es : List Expr),
    (∀ part ∈ partsEach es, env.Relates env' R Q part) →
      ∀ {calls calls' : CallCounts}, Q calls calls' →
      List.Forall₂ R (evalEach env es calls).1 (evalEach env' es calls').1 ∧
        Q (evalEach env es calls).2 (evalEach env' es calls').2
  | [], _, _, _, q => ⟨.nil, q⟩
  | e :: more, h, calls, calls', q => by
    obtain ⟨r, q⟩ := eval_related respected e (fun part hp => h part (List.mem_append_left _ hp)) q
    obtain ⟨rs, q⟩ :=
      evalEach_related respected more (fun part hp => h part (List.mem_append_right _ hp)) q
    exact ⟨.cons r rs, q⟩

end

end Expr

end Spreadsheet
