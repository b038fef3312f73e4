import Mathlib
import Spreadsheet.Proofs.Function.Respects.Scalars
import Spreadsheet.Proofs.Function.Respects.Tables

/-!
# `Proofs/Function/Respects/Library.lean` — what recalculation can rely on of the library

No function of the library makes up the error of a loop (`library_cycleSafe`). All are determined
by their arguments and, if they are marked volatile, by the clock, but for five
(`library_lawful_iff`): two draw numbers by chance, and three make numbers that nothing checks,
which may then be not-a-number. For conditional totals that takes infinite numbers in the cells,
and for the time of day a clock that shows no date there is. Of powers it is assumed that the
platform forms equal ones of equal numbers.

That the five are not determined is shown as well, each at arguments for which two calls differ or
one result is not the same as itself (`not_lawful`). So the list is no convenience of the proofs.
-/

set_option autoImplicit false

namespace Spreadsheet

open Binary64 (Near)
open Argument

variable {engine : Regex.Engine} {A : Allowance} {f : Function}

/-- The functions whose results are numbers that nothing checks: totals and means of what a
criterion chooses, and the time of day on a clock that need not be right. -/
def Function.uncheckedNames : List String := ["SUMIF", "AVERAGEIF", "NOW"]

/-- The functions of the library take alike arguments to alike results, but for powers, and for
numbers that nothing checks if not all numbers are allowed. -/
theorem library_respects (mem : f ∈ Function.library engine) (other : f.name ≠ "POWER")
    (all : f.name ∈ Function.uncheckedNames → ∀ x, A.number x) : f.Respects A := by
  unfold Function.library at mem
  simp only [List.mem_append] at mem
  rcases mem with (((((mem | mem) | mem) | mem) | mem) | mem) | mem
  · exact Aggregate.respects f mem
  · exact Arithmetic.respects f mem other
  · exact Logical.respects f mem
  · exact Lookup.respects f mem
  · exact TextFunction.respects f mem
  · exact DateFunction.respects f mem fun now => all (by simp [now, Function.uncheckedNames])
  · have names : ∀ name ∈ ["SUMIF", "COUNTIF", "AVERAGEIF"],
        name ≠ "COUNTIF" → name ∈ Function.uncheckedNames := by decide
    exact Criterion.respects f mem fun total => all (names _ (Criterion.mem_names mem) total)

/-! ## Powers -/

namespace Arithmetic

theorem contains_of_powerOf {args : List Value} (h : powerOf args = .error .cycle) :
    ∃ v ∈ args, v.Contains .cycle := by
  unfold powerOf at h
  split at h
  next base exponent =>
    -- An operand that is no number is passed on; the power itself has other errors only.
    cases hb : base.toNumber with
    | error e =>
      rw [hb] at h
      cases h
      exact ⟨base, by simp, Value.contains_of_toNumber (by decide) hb⟩
    | ok x =>
      rw [hb] at h
      cases he : exponent.toNumber with
      | error e =>
        rw [he] at h
        cases h
        exact ⟨exponent, by simp, Value.contains_of_toNumber (by decide) he⟩
      | ok y =>
        rw [he] at h
        exact absurd h (power_ne_cycle x y)
  next => cases h

variable (name : String) (arity : Arity) (policy : ArgumentPolicy)

theorem powerOf_cycleSafe :
    (Function.ofArguments name arity policy (numberResult ∘ powerOf)).CycleSafe := by
  intro c args free contains
  have contains : (numberResult (powerOf args)).Contains .cycle := contains
  cases computed : powerOf args with
  | ok x =>
    rw [computed] at contains
    exact not_contains_ofFloat contains
  | error e =>
    rw [computed] at contains
    cases Value.contains_error_iff.1 contains
    obtain ⟨v, mem, found⟩ := contains_of_powerOf computed
    exact free v mem found

theorem powerOf_respects (respectful : Power.Respectful) :
    (Function.ofArguments name arity policy (numberResult ∘ powerOf)).Respects .numbers := by
  refine respects_of_numbers fun h => ?_
  match h with
  | .nil => exact .refused (by decide)
  | .cons _ .nil => exact .refused (by decide)
  | .cons hb (.cons he .nil) =>
    refine hb.toNumber.bind fun base => he.toNumber.bind fun exponent => ?_
    exact (power_same respectful (base.1.beq_of_beq_self base.2)
      (exponent.1.beq_of_beq_self exponent.2)).related
      (power_ne_cycle _ _)
  | .cons _ (.cons _ (.cons _ _)) => exact .refused (by decide)

end Arithmetic

/-- What the library has under the name. -/
theorem eq_power_of_mem (mem : f ∈ Function.library engine) (power : f.name = "POWER") :
    f = .ofArguments "POWER" (.exactly 2) .scalar (numberResult ∘ Arithmetic.powerOf) := by
  exact eq_of_mem_library mem (by simp [Function.library, Arithmetic.functions]) power

/-- **No function of the library makes up the error of a loop.** -/
theorem library_cycleSafe (mem : f ∈ Function.library engine) : f.CycleSafe := by
  by_cases power : f.name = "POWER"
  · rw [eq_power_of_mem mem power]
    exact Arithmetic.powerOf_cycleSafe _ _ _
  · exact (library_respects mem power fun _ _ => trivial).cycleSafe

/-! ## Lawful functions -/

/-- The functions that draw by chance. -/
def Function.drawingNames : List String := ["RAND", "RANDBETWEEN"]

/-- All other functions compute without looking at their circumstances, the two that look at the
clock apart. -/
theorem library_goesByClock (mem : f ∈ Function.library engine)
    (other : f.name ∉ Function.drawingNames) : f.GoesByClock := by
  have arguments : ∀ f ∈ Aggregate.functions ++ Logical.functions ++
      Lookup.functions engine ++ TextFunction.functions ++ Criterion.functions engine,
      f.GoesByClock := by
    simp only [Aggregate.functions, Logical.functions, Lookup.functions, TextFunction.functions,
      Criterion.functions, List.cons_append, List.nil_append, List.forall_mem_cons]
    and_intros
    all_goals first | exact fun _ _ _ => rfl | exact List.forall_mem_nil _
  -- Two functions draw numbers, and they are the ones that are left out.
  have arithmetic : ∀ f ∈ Arithmetic.functions, f.name ∉ Function.drawingNames → f.GoesByClock := by
    simp only [Arithmetic.functions, List.forall_mem_cons]
    refine ⟨?round, ?absolute, ?power, ?squareRoot, ?modulo, ?random, ?randomBetween,
      List.forall_mem_nil _⟩
    case random => exact fun other => absurd (by decide) other
    case randomBetween => exact fun other => absurd (by decide) other
    all_goals exact fun _ _ _ _ => rfl
  -- Two functions look at the clock, and through nothing but its time.
  have dates : ∀ f ∈ DateFunction.functions, f.GoesByClock := by
    simp only [DateFunction.functions, List.forall_mem_cons]
    refine ⟨?today, ?now, ?date, ?year, ?month, ?day, ?difference, List.forall_mem_nil _⟩
    case today => exact fun _ _ clock => funext fun _ => congrArg DateFunction.today (clock rfl)
    case now => exact fun _ _ clock => funext fun _ => congrArg DateFunction.thisMoment (clock rfl)
    all_goals exact fun _ _ _ => rfl
  unfold Function.library at mem
  simp only [List.mem_append] at mem arguments
  rcases mem with (((((mem | mem) | mem) | mem) | mem) | mem) | mem
  · exact arguments f (by simp [mem])
  · exact arithmetic f mem other
  · exact arguments f (by simp [mem])
  · exact arguments f (by simp [mem])
  · exact arguments f (by simp [mem])
  · exact dates f mem
  · exact arguments f (by simp [mem])

/-- The functions that are not determined by their arguments and the clock, as recalculation
compares values. -/
def Function.unlawfulNames : List String := Function.uncheckedNames ++ Function.drawingNames

theorem library_lawful (respectful : f.name = "POWER" → Power.Respectful)
    (mem : f ∈ Function.library engine) (regular : f.name ∉ Function.unlawfulNames) : f.Lawful := by
  obtain ⟨checked, drawn⟩ := not_or.1 (List.mem_append.not.1 regular)
  refine Function.Respects.lawful ?_ (library_goesByClock mem drawn)
  by_cases power : f.name = "POWER"
  · rw [eq_power_of_mem mem power]
    exact Arithmetic.powerOf_respects _ _ _ (respectful power)
  · exact library_respects mem power fun unchecked => absurd unchecked checked

/-- A function is not lawful if it comes to different values for the same arguments at the same
time, or to one with a not-a-number in it. -/
theorem not_lawful_of_same_eq_false (c c' : Circumstances) (args : List Value)
    (clock : c.now = c'.now) (numbers : args.all (fun v => v.same v) = true)
    (apart : (f.compute c args).same (f.compute c' args) = false) :
    ¬ f.Lawful := by
  intro lawful
  have same := lawful c c' args args (fun _ => clock)
    (List.forall₂_same.2 fun v mem => Value.same_iff.1 (List.all_eq_true.1 numbers v mem))
  rw [same.same] at apart
  cases apart

/-- Infinite numbers of either sign. -/
def infinities : Value :=
  .block ⟨1, 2, fun _ j => .number (if j.val = 0 then 1.0 / 0.0 else -1.0 / 0.0)⟩

theorem not_lawful (mem : f ∈ Function.library engine)
    (irregular : f.name ∈ Function.unlawfulNames) : ¬ f.Lawful := by
  let today : Moment := ⟨⟨2000, 1, 1⟩, 0⟩
  -- A time at which the clock cannot stand: its serial is beyond all numbers.
  let never : Moment := ⟨⟨-10 ^ 400, 1, 1⟩, 10 ^ 400⟩
  simp only [Function.unlawfulNames, Function.uncheckedNames, Function.drawingNames,
    List.cons_append, List.nil_append, List.mem_cons, List.not_mem_nil, or_false] at irregular
  rcases irregular with named | named | named | named | named
  · obtain rfl := eq_of_mem_library (g := .ofArguments "SUMIF" (.between 2 3) .lookup
      (Criterion.sumIf engine)) mem (by simp [Function.library, Criterion.functions]) named
    exact not_lawful_of_same_eq_false ⟨today, 0, 0⟩ ⟨today, 0, 0⟩ [infinities, .text "<>"] rfl
      (by decide) rfl
  · obtain rfl := eq_of_mem_library (g := .ofArguments "AVERAGEIF" (.between 2 3) .lookup
      (Criterion.averageIf engine)) mem (by simp [Function.library, Criterion.functions]) named
    exact not_lawful_of_same_eq_false ⟨today, 0, 0⟩ ⟨today, 0, 0⟩ [infinities, .text "<>"] rfl
      (by decide) rfl
  · obtain rfl := eq_of_mem_library (g := ⟨"NOW", .exactly 0, .scalar, .volatile,
      fun c _ => DateFunction.thisMoment c.now⟩) mem
      (by simp [Function.library, DateFunction.functions]) named
    exact not_lawful_of_same_eq_false ⟨never, 0, 0⟩ ⟨never, 0, 0⟩ [] rfl rfl (by decide +kernel)
  · obtain rfl := eq_of_mem_library (g := ⟨"RAND", .exactly 0, .scalar, .volatile,
      fun c _ => .number (Arithmetic.random c)⟩) mem
      (by simp [Function.library, Arithmetic.functions]) named
    exact not_lawful_of_same_eq_false ⟨today, 0, 0⟩ ⟨today, 1, 0⟩ [] rfl rfl (by decide)
  · obtain rfl := eq_of_mem_library (g := ⟨"RANDBETWEEN", .exactly 2, .scalar, .volatile,
      fun c args => numberResult (Arithmetic.randomBetween c args)⟩) mem
      (by simp [Function.library, Arithmetic.functions]) named
    exact not_lawful_of_same_eq_false ⟨today, 0, 0⟩ ⟨today, 1, 0⟩ [.number 0.0, .number 1e9] rfl
      (by decide +kernel) (by decide +kernel)

/-- **What the library can be relied on for.** Its functions are determined by their arguments,
and by the clock if they are marked volatile, exactly if they neither draw by chance nor make a
number that nothing checks. -/
theorem library_lawful_iff (respectful : f.name = "POWER" → Power.Respectful)
    (mem : f ∈ Function.library engine) :
    f.Lawful ↔ f.name ∉ Function.unlawfulNames :=
  ⟨fun lawful irregular => not_lawful mem irregular lawful, library_lawful respectful mem⟩

end Spreadsheet
