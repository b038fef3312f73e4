import Mathlib
import Spreadsheet.Proofs.Function.Answer
import Spreadsheet.Proofs.Number.Rank
import Spreadsheet.Proofs.Value.Finite

/-!
# `Proofs/Function/Aggregate.lean` — the aggregates see the same values

Which numbers an argument adds to an aggregate depends on the argument alone: a scalar is taken
for a number if it can be, and the entries of a block are, except for truth values (`summands`).
`COUNT` finds them with a test of its own and the other aggregates by converting entry by entry;
the two agree on every entry that is no error, and so all six aggregates are functions of one list
of numbers (`answers_total`). What is to be said of them together is said of that list.

The totals are listed with their names (`totals`), so that each fact is stated once for all of
them.
-/

set_option autoImplicit false

namespace Spreadsheet.Aggregate

open Argument
open Lookup (Answers)

/-! ## What is added -/

/-- The number that a scalar stands for as an entry of a block. -/
def worth : Scalar → Option Float
  | .number x => some x
  | .text s => NumericText.read? s.toList
  | .bool _ => none
  | .blank => none

/-- The numbers that an argument adds to an aggregate: a truth value adds one only if it is the
argument itself. -/
def summands : Value → List Float
  | .bool b => [Scalar.ofBool b]
  | .scalar s => (worth s).toList
  | .block b => b.cells.filterMap fun v => match v with
    | .scalar s => worth s
    | _ => none
  | .error _ => []

/-- No argument is an error, and no entry of one. -/
structure ErrorFree (args : List Value) : Prop where
  arguments : ∀ v ∈ args, v.error? = none
  entries : ∀ b, .block b ∈ args → ∀ v ∈ b.cells, v.error? = none

/-- What the aggregates make of the numbers that they find. -/
def totals : List (String × (List Float → Value)) :=
  [ ("SUM", fun xs => .ofFloat (sum xs)),
    ("AVERAGE", fun xs => numberResult (mean xs)),
    ("COUNT", fun xs => .number (Float.ofNat xs.length)),
    ("MAX", fun xs => .ofFloat (reduce greater xs)),
    ("MIN", fun xs => .ofFloat (reduce lesser xs)),
    ("PRODUCT", fun xs => .ofFloat (if xs.isEmpty then 0.0 else product xs)) ]

variable {engine : Regex.Engine} {args args' : List Value} {entry : Entry} {xs : List Float}
    {name : String} {total : List Float → Value}

/-! ## Entries -/

/-- The number that an entry adds. -/
def summand? (entry : Entry) : Option Float :=
  match entry.value with
  | .bool b => if entry.inBlock then none else some (Scalar.ofBool b)
  | .scalar s => worth s
  | _ => none

/-- An entry that is no error is converted to the number that it adds. -/
theorem number?_eq (plain : entry.value.error? = none) : entry.number? = .ok (summand? entry) := by
  obtain ⟨v, inBlock⟩ := entry
  rcases v with (x | s | b | _) | e | b
  · rfl
  · rfl
  · rfl
  · rfl
  · cases plain
  · rfl

/-- `COUNT` counts the entries that add a number. -/
theorem isNumeric_eq (entry : Entry) : isNumeric entry = (summand? entry).isSome := by
  obtain ⟨v, inBlock⟩ := entry
  rcases v with (x | s | b | _) | e | b
  · rfl
  · rfl
  · cases inBlock <;> rfl
  · rfl
  · rfl
  · rfl

/-- The entries of an argument add what the argument does. -/
theorem filterMap_entries (v : Value) : (entries v).filterMap summand? = summands v := by
  rcases v with (x | s | b | _) | e | b
  · rfl
  · exact List.filterMap_cons
  · rfl
  · rfl
  · rfl
  · show (b.cells.map fun v => (⟨v, true⟩ : Entry)).filterMap summand? = b.cells.filterMap _
    rw [List.filterMap_map]
    refine List.filterMap_congr fun v _ => ?_
    rcases v with (x | s | b | _) | e | b <;> rfl

theorem filterMap_flatten (args : List Value) :
    (flatten args).filterMap summand? = args.flatMap summands := by
  unfold flatten
  induction args with
  | nil => rfl
  | cons v args ih =>
    rw [List.flatMap_cons, List.flatMap_cons, List.filterMap_append, filterMap_entries, ih]

theorem ErrorFree.plain (plain : ErrorFree args) (mem : entry ∈ flatten args) :
    entry.value.error? = none := by
  obtain ⟨v, hv, mem⟩ := List.mem_flatMap.1 mem
  cases v with
  | block b =>
    obtain ⟨u, hu, rfl⟩ := List.mem_map.1 mem
    exact plain.entries b hv u hu
  | scalar s =>
    obtain rfl := List.mem_singleton.1 mem
    rfl
  | error e => cases plain.arguments _ hv

/-- The numbers of an aggregate are what its arguments add. -/
theorem numbers_eq (plain : ErrorFree args) : numbers args = .ok (args.flatMap summands) := by
  have found : (flatten args).mapM Entry.number? = .ok ((flatten args).map summand?) := by
    have each := fun entry (mem : entry ∈ flatten args) => number?_eq (plain.plain mem)
    generalize flatten args = found at each
    induction found with
    | nil => rfl
    | cons entry found ih =>
      rw [List.mapM_cons, each entry List.mem_cons_self,
        ih fun e he => each e (List.mem_cons_of_mem entry he)]
      rfl
  unfold numbers
  rw [found, ← filterMap_flatten]
  show Except.ok (((flatten args).map summand?).filterMap id) = _
  rw [List.filterMap_map]
  rfl

theorem countP_eq (args : List Value) :
    (flatten args).countP isNumeric = (args.flatMap summands).length := by
  rw [← filterMap_flatten, List.length_filterMap_eq_countP]
  exact List.countP_congr fun entry _ => by rw [isNumeric_eq]

/-! ## Answers -/

/-- An aggregate is a function of what its arguments add. -/
theorem answers_total (plain : ErrorFree args) (mem : (name, total) ∈ totals) :
    Answers engine name args (total (args.flatMap summands)) := by
  have any : (Arity.atLeast 0).accepts args.length = true :=
    decide_eq_true (Nat.zero_le args.length)
  have found := numbers_eq plain
  have aggregate {name spelling : String} {compute : List Value → Value}
      (library : (Registry.library engine).find? name = some
        (.ofArguments spelling (.atLeast 0) .aggregate compute)) :
      Answers engine name args (compute args) :=
      Lookup.answers_of_apply library any (Lookup.apply_aggregate plain.arguments)
  simp only [totals, List.mem_cons, List.not_mem_nil, or_false, Prod.mk.injEq] at mem
  rcases mem with ⟨rfl, rfl⟩ | ⟨rfl, rfl⟩ | ⟨rfl, rfl⟩ | ⟨rfl, rfl⟩ | ⟨rfl, rfl⟩ | ⟨rfl, rfl⟩
  · have answer : Answers engine "SUM" args (sumOf args) :=
      aggregate (find?_library (by simp [Function.library, functions]) rfl)
    rw [sumOf, found] at answer
    exact answer
  · have answer : Answers engine "AVERAGE" args (average args) :=
      aggregate (find?_library (by simp [Function.library, functions]) rfl)
    rw [average, found] at answer
    exact answer
  · -- `COUNT` is given its arguments as they are, errors and all.
    have library : (Registry.library engine).find? "COUNT" =
      some (.ofArguments "COUNT" (.atLeast 0) .raw count) :=
      find?_library (by simp [Function.library, functions]) rfl
    have answer := Lookup.answers_of_apply library any rfl
    rw [count, countP_eq] at answer
    exact answer
  · have answer : Answers engine "MAX" args (maximum args) :=
      aggregate (find?_library (by simp [Function.library, functions]) rfl)
    rw [maximum, found] at answer
    exact answer
  · have answer : Answers engine "MIN" args (minimum args) :=
      aggregate (find?_library (by simp [Function.library, functions]) rfl)
    rw [minimum, found] at answer
    exact answer
  · have answer : Answers engine "PRODUCT" args (productOf args) :=
      aggregate (find?_library (by simp [Function.library, functions]) rfl)
    rw [productOf, found] at answer
    exact answer

theorem answers_iff (plain : ErrorFree args) (mem : (name, total) ∈ totals) {v : Value} :
    Answers engine name args v ↔ total (args.flatMap summands) = v := by
  constructor
  · exact (answers_total plain mem).unique
  · rintro rfl
    exact answers_total plain mem

theorem count_eq_zero_iff : Value.number (Float.ofNat xs.length) = .number 0.0 ↔ xs = [] := by
  constructor
  · intro h
    injection h with h
    injection h with zero
    by_contra some
    exact Binary64.ofNat_ne_zero (List.length_pos_iff.2 some) zero
  · rintro rfl
    rfl

/-- The mean of some numbers is their sum by their number. -/
theorem numberResult_mean (some : xs ≠ []) :
    numberResult (mean xs) = .ofFloat (sum xs / Float.ofNat xs.length) := by
  rw [mean, if_neg (by simpa using some)]
  rfl

theorem isFinite_sum_div (some : xs ≠ []) :
    (sum xs / Float.ofNat xs.length).isFinite = (sum xs).isFinite :=
  Binary64.isFinite_div_ofNat (List.length_pos_iff.2 some) _

theorem mean_eq_divideByZero_iff : numberResult (mean xs) = .error .divideByZero ↔ xs = [] := by
  constructor
  · intro h
    by_contra some
    rw [numberResult_mean some, Value.ofFloat] at h
    split at h <;> cases h
  · rintro rfl
    rfl

theorem ofFloat_eq_error_iff {x : Float} :
    Value.ofFloat x = .error .typeMismatch ↔ x.isFinite = false := by
  unfold Value.ofFloat
  cases x.isFinite <;> simp

/-- A sum and a mean of the same numbers are in range together; that there is no mean is another
error. -/
theorem mean_eq_typeMismatch_iff : numberResult (mean xs) = .error .typeMismatch ↔
    Value.ofFloat (sum xs) = .error .typeMismatch := by
  by_cases some : xs = []
  · subst some
    have zero : (sum []).isFinite = true := by decide
    rw [ofFloat_eq_error_iff, zero]
    exact iff_of_false nofun nofun
  · rw [numberResult_mean some, ofFloat_eq_error_iff, ofFloat_eq_error_iff, isFinite_sum_div some]

/-- **The aggregates see the same values.** Over arguments without an error, `SUM` adds up what
they add and `COUNT` counts it. `AVERAGE` divides by zero exactly if the count is zero, and
otherwise it is what `SUM` is, by what `COUNT` is; the two are out of range together. `MAX`, `MIN`
and `PRODUCT` are zero if the count is. And none of the six sees more of its arguments than this
list: other arguments that add the same get the same answers, however they are made up of scalars
and blocks. -/
theorem aggregates_agree (engine : Regex.Engine) (plain : ErrorFree args) :
    Answers engine "SUM" args (.ofFloat (sum (args.flatMap summands))) ∧
    Answers engine "COUNT" args (.number (Float.ofNat (args.flatMap summands).length)) ∧
    (Answers engine "AVERAGE" args (.error .divideByZero) ↔
      Answers engine "COUNT" args (.number 0.0)) ∧
    (∀ total n, Answers engine "SUM" args (.number total) →
        Answers engine "COUNT" args (.number n) → n ≠ 0.0 →
      Answers engine "AVERAGE" args (.number (total / n))) ∧
    (Answers engine "AVERAGE" args (.error .typeMismatch) ↔
      Answers engine "SUM" args (.error .typeMismatch)) ∧
    (Answers engine "COUNT" args (.number 0.0) →
      ∀ name ∈ ["MAX", "MIN", "PRODUCT"], Answers engine name args (.number 0.0)) ∧
    (∀ args', ErrorFree args' → args'.flatMap summands = args.flatMap summands →
      ∀ name ∈ ["SUM", "AVERAGE", "COUNT", "MAX", "MIN", "PRODUCT"], ∀ v,
      Answers engine name args' v ↔ Answers engine name args v) := by
  have sums {v : Value} : Answers engine "SUM" args v ↔ _ :=
    answers_iff plain (.head _ : ("SUM", _) ∈ totals)
  have means {v : Value} : Answers engine "AVERAGE" args v ↔ _ :=
    answers_iff plain (.tail _ (.head _) : ("AVERAGE", _) ∈ totals)
  have counts {v : Value} : Answers engine "COUNT" args v ↔ _ :=
    answers_iff plain (.tail _ (.tail _ (.head _)) : ("COUNT", _) ∈ totals)
  -- Nothing was counted just if nothing is added.
  have none : Answers engine "COUNT" args (.number 0.0) ↔ args.flatMap summands = [] :=
    counts.trans count_eq_zero_iff
  refine ⟨sums.2 rfl, counts.2 rfl, (means.trans mean_eq_divideByZero_iff).trans none.symm, ?_,
    ?_, ?_, ?_⟩
  · intro total n hs hc nonzero
    -- The sum is an answer, so it did not leave its range; the mean then does not either.
    have finite : (sum (args.flatMap summands)).isFinite = true := by
      by_contra infinite
      rw [sums, Value.ofFloat_of_infinite (Bool.eq_false_iff.2 infinite)] at hs
      cases hs
    cases Value.eq_of_ofFloat_eq (sums.1 hs)
    cases counts.1 hc
    have some : args.flatMap summands ≠ [] := fun empty => nonzero (by rw [empty]; rfl)
    rw [means, numberResult_mean some, Value.ofFloat_of_isFinite (isFinite_sum_div some ▸ finite)]
  · rw [means, sums, mean_eq_typeMismatch_iff]
  · intro zero name mem
    rw [none] at zero
    have nothing : Value.ofFloat 0.0 = .number 0.0 := Value.ofFloat_of_isFinite (by decide +kernel)
    obtain ⟨total, mem, value⟩ : ∃ total, (name, total) ∈ totals ∧ total [] = .ofFloat 0.0 := by
      simp only [List.mem_cons, List.not_mem_nil, or_false] at mem
      rcases mem with rfl | rfl | rfl
      · exact ⟨_, .tail _ (.tail _ (.tail _ (.head _))), rfl⟩
      · exact ⟨_, .tail _ (.tail _ (.tail _ (.tail _ (.head _)))), rfl⟩
      · exact ⟨_, .tail _ (.tail _ (.tail _ (.tail _ (.tail _ (.head _))))), rfl⟩
    rw [answers_iff plain mem, zero, value, nothing]
  · intro args' plain' same name named v
    obtain ⟨⟨name, total⟩, mem, rfl⟩ := List.mem_map.1 (show name ∈ totals.map Prod.fst from named)
    rw [answers_iff plain mem, answers_iff plain' mem, same]

/-- A truth value, and a block of another one and a text that looks like a number. -/
def mixed : List Value :=
  [.bool true, .block ⟨1, 2, fun _ j => if j = 0 then .bool true else .text "$2"⟩]

/-- The theorem at a truth value that counts and one that does not. -/
theorem aggregates_agree_of_mixed : ErrorFree mixed ∧ mixed.flatMap summands = [1.0, 2.0] ∧
    Answers .standard "SUM" mixed (.number 3.0) ∧ Answers .standard "COUNT" mixed (.number 2.0) ∧
    Answers .standard "AVERAGE" mixed (.number 1.5) := by
  have plain : ErrorFree mixed := by
    constructor
    · exact List.forall_mem_cons.2 ⟨rfl, List.forall_mem_singleton.2 rfl⟩
    · intro b hb v hv
      obtain ⟨⟨⟩⟩ | hb := List.mem_cons.1 hb
      cases List.mem_singleton.1 hb
      have cells : v ∈ [Value.bool true, .text "$2"] := hv
      simp only [List.mem_cons, List.not_mem_nil, or_false] at cells
      rcases cells with rfl | rfl <;> rfl
  have added : mixed.flatMap summands = [1.0, 2.0] := by
    have read : NumericText.read? "$2".toList = some 2.0 := by decide +kernel
    show [1.0] ++ ([] ++ (NumericText.read? "$2".toList).toList) = [1.0, 2.0]
    rw [read]
    rfl
  obtain ⟨sums, counts, -, means, -⟩ := aggregates_agree .standard plain
  rw [added] at sums counts
  have three : Value.ofFloat (sum [1.0, 2.0]) = .number 3.0 := by
    have total : sum [1.0, 2.0] = 3.0 := by decide +kernel
    rw [total, Value.ofFloat_of_isFinite (by decide +kernel)]
  have half : (3.0 : Float) / Float.ofNat 2 = 1.5 := by decide +kernel
  rw [three] at sums
  exact ⟨plain, added, sums, counts, half ▸ means _ _ sums counts (by decide +kernel)⟩

end Spreadsheet.Aggregate
