import Spreadsheet.Proofs.Workbook.Reachable

/-!
# `Proofs/Workbook/Footprint.lean` — a formula reads nothing but its precedents

What a formula comes to is fixed by the values of its precedents and by which of them are
tombstones. This is not about values being equal as formulas see it, but about values being
identical, and nothing is asked of the functions (`evaluation_reads_precedents`).

The precedents are worked out from the tree once, evaluation looks sheets and ranges up again on
its own. So the theorem says in particular that the two look-ups agree: a cell that evaluation
looked at and that were not recorded would be one whose changes go unnoticed.

Equal seeds and equal counts of calls stand for equal draws, since what `RAND` and `RANDBETWEEN`
come to is a function of the two; the counts of both evaluations stay equal for as long as both
call the same functions, and the draws they make are then the same ones.
-/

set_option autoImplicit false

namespace Spreadsheet

/-! ## Identical results -/

/-- Evaluation respects identity. -/
theorem Value.eq_respected : Value.Respected Eq where
  text _ := rfl
  bool _ := rfl
  error _ := rfl
  error? h := by rw [h]
  unwrap h := by rw [h]
  sign h sign := by rw [h]

/-- A formula comes to the same value in two environments if its references and the functions that
it calls do. What is known of the counts of calls (`Q`) may be less than that they are the
same. -/
theorem Expr.evaluate_eq {env env' : Environment} {Q : CallCounts → CallCounts → Prop} {e : Expr}
    (counted : ∀ {calls calls' : CallCounts}, Q calls calls' →
      ∀ name, Q (calls.increment name) (calls'.increment name))
    (find : ∀ name args, .call name args ∈ e.parts →
      env'.registry.find? name = env.registry.find? name)
    (computed : ∀ name args, .call name args ∈ e.parts → ∀ f, env.registry.find? name = some f →
      ∀ values calls calls', Q calls calls' →
        f.compute ⟨env.now, env.seed, calls.count f.name⟩ values =
        f.compute ⟨env'.now, env'.seed, calls'.count f.name⟩ values)
    (cells : ∀ a, .cell a ∈ e.parts → env.cell a = env'.cell a)
    (ranges : ∀ r, .range r ∈ e.parts → env.range r = env'.range r) {calls calls' : CallCounts}
    (q : Q calls calls') :
    (e.evaluate env calls).1 = (e.evaluate env' calls').1 ∧
    Q (e.evaluate env calls).2 (e.evaluate env' calls').2 := by
  have related : ∀ part ∈ e.parts, env.Relates env' Eq Q part := by
    intro part hp
    cases part with
    | number x => exact rfl
    | cell a => exact cells a hp
    | range r => exact ranges r hp
    | binary op lhs rhs =>
      rintro x _ y _ rfl rfl
      rfl
    | call name args =>
      refine Environment.relatesCalls Value.eq_respected counted (find name args hp) ?_
      intro f found as as' calls calls' same q
      rw [List.forall₂_eq_eq_eq] at same
      subst same
      exact computed name args hp f found as calls calls' q
    | _ => trivial
  obtain ⟨value, q⟩ := eval_related Value.eq_respected e related q
  exact ⟨congrArg Value.asResult value, q⟩

namespace Workbook

variable {w w' : Workbook} {sheet : Nat} {e : Expr}

/-- The environment over the values on record is the environment. -/
theorem environmentOver_settledValue (w : Workbook) (sheet : Nat) :
    w.environmentOver w.settledValue sheet = w.environment sheet := rfl

/-- A cell on a sheet that there is not is never looked at. -/
theorem environmentOver_cell_of_none (values : CellId → Value) {a : Address}
    (ha : w.resolve? sheet a = none) :
    (w.environmentOver values sheet).cell a = .error .badReference := by
  rw [environmentOver_cell, ha]

/-- Neither is a range on a sheet that there is not, or one that is too large. -/
theorem environmentOver_range_of_refused (values : CellId → Value) {r : Range}
    (refused : w.sheetOf? sheet r.sheet = none ∨
      Environment.admitsRange w.settings.maxRangeCells r = false) :
    (w.environmentOver values sheet).range r = .error .badReference := by
  rw [environmentOver_range]
  cases ht : w.sheetOf? sheet r.sheet with
  | none => rfl
  | some target =>
    rcases refused with none | large
    · rw [ht] at none
      cases none
    · simp [large]

/-- A formula comes to the same value in workbooks that it sees alike and in which its precedents
hold the same, if the functions that it calls compute the same. -/
theorem SeesAlike.evaluate_eq {Q : CallCounts → CallCounts → Prop} (alike : SeesAlike w w' sheet e)
    (values : ∀ d ∈ w.precedentsOn sheet e, w'.settledValue d = w.settledValue d)
    (counted : ∀ {calls calls' : CallCounts}, Q calls calls' →
      ∀ name, Q (calls.increment name) (calls'.increment name))
    (computed : ∀ name args, .call name args ∈ e.parts → ∀ f, w.registry.find? name = some f →
      ∀ values calls calls', Q calls calls' → f.compute ⟨w.now, w.seed, calls.count f.name⟩ values =
        f.compute ⟨w'.now, w'.seed, calls'.count f.name⟩ values) {calls calls' : CallCounts} (q :
        Q calls calls') :
    (e.evaluate (w.environment sheet) calls).1 = (e.evaluate (w'.environment sheet) calls').1 ∧
      Q (e.evaluate (w.environment sheet) calls).2
      (e.evaluate (w'.environment sheet) calls').2 := by
  have same : ∀ d ∈ w.precedentsOn sheet e, w.settledValue d = w'.settledValue d :=
    fun d hd => (values d hd).symm
  have block : ∀ (rows columns : Nat) (entry entry' : Fin rows → Fin columns → Value),
      (∀ i j, entry i j = entry' i j) →
      Value.block ⟨rows, columns, entry⟩ = .block ⟨rows, columns, entry'⟩ := by
    intro rows columns entry entry' same
    rw [show entry = entry' from funext fun i => funext fun j => same i j]
  rw [← environmentOver_settledValue, ← environmentOver_settledValue]
  exact Expr.evaluate_eq counted alike.find computed (fun a ha => alike.cell (fun _ => rfl) same ha)
    (fun r hr => alike.range (fun _ => rfl) block same hr) q

/-- **A formula reads nothing but its precedents.** Two workbooks with the same sheets, functions
and configuration in which the precedents of a formula have the same values, and are tombstones
alike, give it one and the same value at a time, and count the same calls. The precedents, which
are what is recorded of a formula when it is compiled, have among them every cell that it names
and every cell of its ranges; and whatever the cells hold, a reference to a sheet that there is
not, or to too large a range, is no valid reference.

Chance is held fixed: equal seeds and equal counts of calls stand for equal draws of `RAND` and
`RANDBETWEEN`, which say nothing of what cells hold. No other function of the library looks at the
seed (`library_goesByClock`). -/
theorem evaluation_reads_precedents (sheets : w'.sheets = w.sheets)
    (settings : w'.settings = w.settings) (registry : w'.registry = w.registry)
    (now : w'.now = w.now) (seed : w'.seed = w.seed)
    (values : ∀ d ∈ w.precedentsOn sheet e, w'.settledValue d = w.settledValue d)
    (tombstones : ∀ d ∈ w.precedentsOn sheet e, w'.isTombstone d = w.isTombstone d) :
    (∀ calls, e.evaluate (w'.environment sheet) calls = e.evaluate (w.environment sheet) calls) ∧
      (∀ raw, (w.compile sheet raw).content = .formula e →
        (w.compile sheet raw).precedents = w.precedentsOn sheet e) ∧
      (∀ a d, .cell a ∈ e.parts → w.resolve? sheet a = some d → d ∈ w.precedentsOn sheet e) ∧
      (∀ r target, .range r ∈ e.parts → w.sheetOf? sheet r.sheet = some target →
        Environment.admitsRange w.settings.maxRangeCells r = true → ∀ i < r.rows, ∀ j < r.columns,
          ⟨target, r.offset i j⟩ ∈ w.precedentsOn sheet e) ∧
      (∀ a values, w.resolve? sheet a = none →
        (w.environmentOver values sheet).cell a = .error .badReference) ∧
      ∀ r values, w.sheetOf? sheet r.sheet = none ∨
        Environment.admitsRange w.settings.maxRangeCells r = false →
        (w.environmentOver values sheet).range r = .error .badReference := by
  refine ⟨fun calls => ?_, fun raw => precedents_of_compile, fun a d => mem_precedentsOn_of_cell,
    fun r target hr ht admitted i hi j hj => mem_precedentsOn_of_range hr ht admitted
    ⟨i, hi⟩ ⟨j, hj⟩,
    fun a values => environmentOver_cell_of_none values,
    fun r values => environmentOver_range_of_refused values⟩
  have alike : SeesAlike w w' sheet e :=
    seesAlike_of_eq settings registry sheets fun a d ha hd =>
      tombstones d (mem_precedentsOn_of_cell ha hd)
  obtain ⟨value, counts⟩ := alike.evaluate_eq (Q := Eq) values (fun same name => by rw [same])
    (fun name args hp f found values calls calls' counts => by rw [counts, now, seed])
    (rfl : calls = calls)
  exact Prod.ext value.symm counts.symm

/-- Clearing a cell that a formula does not read makes no difference to it, though the values of
the two workbooks differ. -/
theorem evaluation_reads_precedents_of_cleared :
    ∃ (w w' : Workbook) (e : Expr),
      (w.settledValue ⟨0, ⟨0, 2⟩⟩).isError = true ∧ (w'.settledValue ⟨0, ⟨0, 2⟩⟩).isError = false ∧
      (w.precedentsOn 0 e).toList = [⟨0, ⟨0, 0⟩⟩, ⟨0, ⟨0, 1⟩⟩, ⟨0, ⟨1, 1⟩⟩] ∧
      (∀ d ∈ w.precedentsOn 0 e, w'.settledValue d = w.settledValue d) ∧
      (∀ d ∈ w.precedentsOn 0 e, w'.isTombstone d = w.isTombstone d) ∧
      ∀ calls, e.evaluate (w'.environment 0) calls = e.evaluate (w.environment 0) calls := by
  let written := ((create Settings.default ⟨⟨2000, 1, 1⟩, 0⟩ 0).writeCell
    ⟨0, ⟨0, 0⟩⟩ "12").writeCell ⟨0, ⟨0, 2⟩⟩ "=1/0"
  have coherent : written.Coherent := ((coherent_create _ _ _ _).writeCell _ _).writeCell _ _
  let w := (written.drain 20).get (by decide +kernel)
  have wired : w.Wired := (coherent.drain (Option.some_get _).symm).1.wired
  let w' := w.clearCell ⟨0, ⟨0, 2⟩⟩
  let e : Expr := .binary .add (.cell ⟨none, 0, 0, false, false⟩)
    (.call "SUM" [.range ⟨⟨none, 0, 1, false, false⟩, ⟨none, 1, 1, false, false⟩⟩])
  have edited : Edited ⟨0, ⟨0, 2⟩⟩ w w' := by
    rcases edited_clearCell wired ⟨0, ⟨0, 2⟩⟩ with same | edited
    · exact absurd (congrArg (fun w => (w.cell? ⟨0, ⟨0, 2⟩⟩).isSome) same) (by decide +kernel)
    · exact edited
  have precedents : (w.precedentsOn 0 e).toList = [⟨0, ⟨0, 0⟩⟩, ⟨0, ⟨0, 1⟩⟩, ⟨0, ⟨1, 1⟩⟩] := by
    decide +kernel
  have seen : ∀ d ∈ w.precedentsOn 0 e, d ≠ ⟨0, ⟨0, 2⟩⟩ ∧ w'.isTombstone d = w.isTombstone d := by
    intro d hd
    rw [← Std.ExtTreeSet.mem_toList, precedents] at hd
    revert d
    decide +kernel
  have values : ∀ d ∈ w.precedentsOn 0 e, w'.settledValue d = w.settledValue d :=
    fun d hd => edited.settledValue (seen d hd).1
  have tombstones : ∀ d ∈ w.precedentsOn 0 e, w'.isTombstone d = w.isTombstone d :=
    fun d hd => (seen d hd).2
  obtain ⟨evaluate, -⟩ :=
    evaluation_reads_precedents edited.sheets edited.settings edited.registry edited.now
    (by decide +kernel) values tombstones
  exact ⟨w, w', e, by decide +kernel, by decide +kernel, precedents, values, tombstones, evaluate⟩

end Workbook

end Spreadsheet
