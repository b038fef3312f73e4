import Spreadsheet.Proofs.Formula.Canonical
import Spreadsheet.Proofs.Function.Respects.Library
import Spreadsheet.Proofs.Recalculation.Clock

/-!
# `Proofs/Recalculation/Library.lean` — workbooks of built-in functions

What recalculation is proved to do, it does under assumptions on the functions that formulas call.
A program may register functions that break them; the built-in ones keep them. So as long as no
other function is registered, the error of a loop is never reported without a loop, whatever is
called (`Reachable.exists_onLoop`), and recalculation finds what the workbook means if no formula
calls one of five functions, which can be told from its text (`Reachable.drain_meaning`,
`Reachable.recalculate_meaning`).

The platform's powers are assumed to be what they are relied on to be; a workbook without powers
needs no assumption.
-/

set_option autoImplicit false

namespace Spreadsheet

/-! ## Formulas of built-in functions -/

/-- Whether a formula calls none of some functions, whose names are given in capitals. -/
def Expr.avoids (names : List String) (e : Expr) : Bool :=
  e.parts.all fun
    | .call function _ => !names.contains (Text.latinUpper function)
    | _ => true

/-- Whether a formula raises to powers, by the operator or by the function. -/
def Expr.usesPowers (e : Expr) : Bool :=
  e.parts.any fun
    | .binary .power _ _ => true
    | .call function _ => Text.latinUpper function == "POWER"
    | _ => false

/-- The functions that are marked volatile. -/
def Function.volatileNames : List String := ["TODAY", "NOW", "RAND", "RANDBETWEEN"]

theorem library_stable {engine : Regex.Engine} {f : Function} (mem : f ∈ Function.library engine)
    (other : f.name ∉ Function.volatileNames) : f.volatility = .stable := by
  have marked : ∀ f ∈ Function.library .standard,
      f.name ∈ Function.volatileNames ∨ f.volatility = .stable := by decide
  obtain ⟨g, hg, signature⟩ := exists_standard mem
  obtain ⟨name, -, -, volatility⟩ : g.name = f.name ∧ g.arity = f.arity ∧ g.policy = f.policy ∧
      g.volatility = f.volatility := by simpa [Function.signature] using signature
  rw [← name] at other
  exact volatility ▸ (marked g hg).resolve_left other

namespace Expr

variable {engine : Regex.Engine} {e : Expr} {names : List String}

theorem avoids_iff : e.avoids names = true ↔ ∀ function args, .call function args ∈ e.parts →
    Text.latinUpper function ∉ names := by
  unfold avoids
  rw [List.all_eq_true]
  constructor
  · intro h function args called
    simpa using h _ called
  · intro h part hp
    cases part with
    | call function args => simpa using h function args hp
    | _ => rfl

/-- What a formula calls by a name that is not among some is a function with another name. -/
theorem name_not_mem (avoids : e.avoids names = true) {function : String} {args : List Expr}
    {f : Function} (called : .call function args ∈ e.parts)
    (found : (Registry.library engine).find? function = some f) : f.name ∉ names := by
  rw [(mem_library found).2]
  exact avoids_iff.1 avoids function args called

theorem avoids_append {more : List String} :
    e.avoids (names ++ more) = true ↔ e.avoids names = true ∧ e.avoids more = true := by
  simp only [avoids_iff, List.mem_append, not_or]
  constructor
  · intro h
    exact ⟨fun f args called => (h f args called).1, fun f args called => (h f args called).2⟩
  · rintro ⟨these, those⟩ f args called
    exact ⟨these f args called, those f args called⟩

theorem cycleSafe_library : e.CycleSafe (Registry.library engine) :=
  fun _ _ _ _ found => library_cycleSafe (mem_library found).1

theorem stable_library (avoids : e.avoids Function.volatileNames = true) :
    e.Stable (Registry.library engine) :=
  fun _ _ called _ found => library_stable (mem_library found).1 (name_not_mem avoids called found)

/-- A formula that was read from a text is lawful if it calls none of the functions that are not. -/
theorem lawful_library (respectful : e.usesPowers = true → Power.Respectful)
    (canonical : e.Canonical) (avoids : e.avoids Function.unlawfulNames = true) :
    e.Lawful (Registry.library engine) := by
  intro part hp
  -- Only literals, powers and calls ask for anything.
  cases part with
  | number x => exact Binary64.beq_self_of_isFinite (canonical _ hp).1
  | binary op lhs rhs =>
    cases op with
    | power => exact respectful (List.any_eq_true.2 ⟨_, hp, rfl⟩)
    | _ => trivial
  | call function args =>
    intro f found
    have named := (mem_library found).2
    refine library_lawful (fun power => respectful ?_) (mem_library found).1
      (name_not_mem avoids hp found)
    exact List.any_eq_true.2 ⟨_, hp, by rw [beq_iff_eq, ← named, power]⟩
  | _ => trivial

end Expr

/-! ## Workbooks -/

namespace Workbook

variable {engine : Regex.Engine} {w w' : Workbook} {x : CellId} {names : List String}

/-- No function was registered beside the built-in ones, the formulas call none of some functions,
and if there are powers in them, powers are what they are relied on to be. -/
structure Plain (w : Workbook) (names : List String) : Prop where
  library : ∃ engine, w.registry = Registry.library engine
  avoids : w.formulasWhere (fun e => !e.avoids names) = []
  powers : w.formulasWhere Expr.usesPowers = [] ∨ Power.Respectful

theorem eachFormula_cycleSafe (library : w.registry = Registry.library engine) :
    w.EachFormula Expr.CycleSafe := by
  intro x c e _ _
  rw [library]
  exact Expr.cycleSafe_library

theorem Plain.eachFormula_cycleSafe (plain : w.Plain names) : w.EachFormula Expr.CycleSafe := by
  obtain ⟨engine, library⟩ := plain.library
  exact Workbook.eachFormula_cycleSafe library

theorem Plain.eachFormula_lawful (plain : w.Plain Function.unlawfulNames) (coherent : w.Coherent) :
    w.EachFormula Expr.Lawful := by
  intro x c e hc he
  have compiled := (coherent.sound x (by simp)).compiled c hc
  obtain ⟨source, parsed⟩ := exists_parse_of_compile (compiled ▸ he)
  obtain ⟨engine, library⟩ := plain.library
  rw [library]
  refine Expr.lawful_library (fun uses => ?_) (Formula.canonical_of_parse parsed)
    (of_formulasWhere_eq_nil plain.avoids hc he)
  rcases plain.powers with none | respectful
  · exact absurd (mem_formulasWhere.2 ⟨c, e, hc, he, uses⟩) (none ▸ List.not_mem_nil)
  · exact respectful

theorem Plain.of_append {more : List String} (plain : w.Plain (names ++ more)) : w.Plain names where
  library := plain.library
  powers := plain.powers
  avoids := by
    refine List.eq_nil_iff_forall_not_mem.2 fun x mem => ?_
    obtain ⟨c, e, hc, he, calls⟩ := mem_formulasWhere.1 mem
    have avoids := (Expr.avoids_append.1 (of_formulasWhere_eq_nil plain.avoids hc he)).1
    rw [avoids] at calls
    cases calls

/-- Built-in functions are pure, but for those that are not lawful or look at the clock. -/
theorem Plain.pure (plain : w.Plain (Function.unlawfulNames ++ Function.volatileNames))
    (coherent : w.Coherent) : w.Pure where
  lawful := plain.of_append.eachFormula_lawful coherent
  safe := plain.eachFormula_cycleSafe
  stable := by
    intro x c e hc he
    obtain ⟨engine, library⟩ := plain.library
    rw [library]
    exact Expr.stable_library (Expr.avoids_append.1 (of_formulasWhere_eq_nil plain.avoids hc he)).2

/-- With built-in functions only, whatever is called: in a settled workbook a cell with the error
of a loop lies on a loop, or reads one that does, directly or through others. -/
theorem Reachable.exists_onLoop (reachable : w.Reachable)
    (library : w.registry = Registry.library engine) (settled : w.AllSettled)
    (cyclic : w.isCyclic x = true) : ∃ y, Relation.ReflTransGen w.Reads x y ∧ w.OnLoop y :=
  reachable.coherent.exists_onLoop settled (eachFormula_cycleSafe library)
    (contains_of_isCyclic cyclic)

/-- With built-in functions that are determined by their arguments, a pass over a workbook without
loops returns, and leaves every cell with what it means. -/
theorem Reachable.drain_meaning (reachable : w.Reachable) (acyclic : w.Acyclic)
    (plain : w.Plain (Function.unlawfulNames ++ Function.volatileNames)) :
    (∃ steps w', w.drain steps = some w') ∧
      ∀ steps w', w.drain steps = some w' → ∀ x, (w'.settledValue x).Same (w.meaning acyclic x) :=
  ⟨reachable.coherent.exists_drain acyclic,
    fun _ _ drained x => reachable.coherent.drain_same_meaning acyclic
    (plain.pure reachable.coherent) drained x⟩

example : (((create Settings.default ⟨⟨2000, 1, 1⟩, 0⟩ 0).writeCell
      ⟨0, ⟨0, 0⟩⟩ "=ROUND(SUM(B1:B9)/3)").writeCell
    ⟨0, ⟨0, 2⟩⟩ "=IFERROR(VLOOKUP(A1,D1:E9,2),YEAR(45000))").formulasWhere
      (fun e => !e.avoids (Function.unlawfulNames ++ Function.volatileNames)) = [] := by
  decide +kernel

/-- If formulas look at the clock as well, a full pass does this for the time of the pass. -/
theorem Reachable.recalculate_meaning (reachable : w.Reachable) (acyclic : w.Acyclic)
    (plain : w.Plain Function.unlawfulNames) :
    (∃ steps w', w.recalculate steps = some w') ∧
      ∀ steps w', w.recalculate steps = some w' →
      ∀ x, (w'.settledValue x).Same (w.meaning acyclic x) :=
  ⟨reachable.coherent.exists_recalculate acyclic,
    fun _ _ done x => reachable.coherent.recalculate_same_meaning acyclic
    (plain.eachFormula_lawful reachable.coherent) plain.eachFormula_cycleSafe done x⟩

end Workbook

end Spreadsheet
