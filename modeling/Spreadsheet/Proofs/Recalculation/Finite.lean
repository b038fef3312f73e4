import Spreadsheet.Proofs.Evaluation.Finite
import Spreadsheet.Proofs.Recalculation.Locality
import Spreadsheet.Proofs.Recalculation.Stored

/-!
# `Proofs/Recalculation/Finite.lean` — infinite numbers come of conditional totals

Numbers that are typed are finite, and so are those that a formula comes to over finite ones, as
long as no conditional total overflows in it. So by induction over the operations and over the
steps of every pass, all numbers on record are finite until the first formula is evaluated in
which one does (`finite_but_for_totals`). It need not be a large sheet: two cells will do
(`totals_can_overflow`).

Where no formula calls a conditional total, that is so in every session
(`ReachableWithin.holds_isFinite_of_withoutTotals`). Otherwise the condition is on the formulas
that are evaluated, at the time at which they are, since what a total comes to depends on the
values on record by then (`Contained`).
-/

set_option autoImplicit false

namespace Spreadsheet

/-- What is relied on where a formula is evaluated: the functions are the built-in ones, the clock
shows a time that there is, the arguments of calls can be counted, and no conditional total
overflows. -/
structure Expr.Contained (engine : Regex.Engine) (env : Environment) (e : Expr)
    (calls : CallCounts) : Prop where
  library : env.registry = Registry.library engine
  clock : env.now.IsValid
  countable : ∀ name args, .call name args ∈ e.parts → args.length < Range.countLimit
  safe : ¬ e.Overflows engine env calls

/-- The literals of a formula that was read are finite. -/
theorem Expr.Canonical.isFinite {e : Expr} (canonical : e.Canonical)
    (countable : ∀ name args, .call name args ∈ e.parts → args.length < Range.countLimit) :
    e.IsFinite := by
  intro part hp
  have canonical := canonical part hp
  cases part with
  | number x => exact canonical.1
  | call name args => exact countable name args hp
  | _ => trivial

namespace Workbook

variable {engine : Regex.Engine} {w w' : Workbook} {p : Pass} {x : CellId} {c : Cell}

/-- In the passes over a workbook every formula is evaluated where it can be relied on. -/
def Contained (engine : Regex.Engine) (w : Workbook) : Prop :=
  ∀ p id c e, w.Passing p → p.Evaluates id → p.book.cell? id = some c →
    c.compiled.content = .formula e →
    e.Contained engine (p.book.environment id.sheet) p.book.calls

theorem contained_create (settings : Settings) (now : Moment) (seed : Nat)
    (engine' : Regex.Engine) : (create settings now seed engine').Contained engine := by
  intro p id c e passing _ hc
  obtain ⟨c', hc', -⟩ := passing.sameText.symm.cell? hc
  rw [cell?_create] at hc'
  cases hc'

/-- Formulas find finite values in their environment if all values on record are finite. -/
theorem Holds.environment (holds : w.Holds Value.IsFinite)
    (library : w.registry = Registry.library engine) (clock : w.now.IsValid) (sheet : Nat) :
    (w.environment sheet).IsFinite engine := by
  refine ⟨library, clock, fun a => ?_⟩
  unfold Workbook.environment reader
  dsimp only
  split
  next id _ => exact holds id
  next => exact .error _

/-- What a content comes to over finite values is finite. -/
theorem Holds.evaluated (holds : w.Holds Value.IsFinite) (compiled : w.CompiledAt x)
    (hc : w.cell? x = some c) (contained : ∀ e, c.compiled.content = .formula e →
      e.Contained engine (w.environment x.sheet) w.calls) :
    (w.evaluated x.sheet c.compiled.content).IsFinite := by
  have compiled := compiled c hc
  cases he : c.compiled.content with
  | literal s =>
    rw [compiled] at he
    exact .scalar (isFinite_of_compile he)
  | invalid fault => exact .error _
  | formula e =>
    have contained := contained e he
    rw [compiled] at he
    obtain ⟨source, parsed⟩ := exists_parse_of_compile he
    -- The formula was read from a text, so that its literals are finite.
    have finite := (Formula.canonical_of_parse parsed).isFinite contained.countable
    exact Expr.evaluate_isFinite
      (holds.environment contained.library contained.clock x.sheet) finite contained.safe

/-- All values on record stay finite throughout a pass. -/
theorem Contained.passing (contained : w.Contained engine) (coherent : w.Coherent)
    (holds : w.Holds Value.IsFinite) (passing : w.Passing p) : p.book.Holds Value.IsFinite := by
  induction passing with
  | drain => exact holds
  | recalculate =>
    exact holds.of_settledValue (marked_foldl_markDirty w.volatileCells w).1.settledValue
  | @step p q passing next ih =>
    have invariant := passing.invariant coherent
    refine (Pass.stepped_of_step next).holds Value.IsFinite (.scalar trivial) (.error .cycle)
      (fun id c top state hc => ?_) ih
    exact ih.evaluated (invariant.sound id).compiled hc fun e he => contained p id c e passing
      ⟨top, state⟩ hc he

/-- All values on record are finite, as long as formulas were evaluated where they could be relied
on. -/
theorem ReachableWithin.holds_isFinite (reachable : w.ReachableWithin (Contained engine)) :
    w.Holds Value.IsFinite := by
  induction reachable with
  | create settings now seed engine =>
    exact holds_create Value.IsFinite (.scalar trivial) settings now seed engine
  | @operation w w' reachable operation within ih =>
    have contained : w.Contained engine := reachable.within contained_create
    -- Only passes evaluate formulas, and they begin where the last operation ended.
    refine operation.holds Value.IsFinite
      (.scalar trivial) reachable.coherent.wired ih fun v steps w' begins drained => ?_
    have start : w.Passing ⟨v, []⟩ := by
      rcases begins with rfl | rfl
      · exact .drain
      · exact .recalculate
    exact contained.passing reachable.coherent ih (start.leads (Pass.leads_of_run drained))

/-! ## Workbooks without conditional totals -/

/-- The functions are the built-in ones, the clock shows a time that there is, and no formula
calls a conditional total, or any function with more arguments than 64 bits can count. -/
structure WithoutTotals (engine : Regex.Engine) (w : Workbook) : Prop where
  library : w.registry = Registry.library engine
  clock : w.now.IsValid
  formulas : w.EachFormula fun _ e => e.WithoutTotals ∧ e.IsFinite

/-- Formulas that call no conditional total can be relied on wherever they are evaluated. -/
theorem WithoutTotals.contained (h : w.WithoutTotals engine) : w.Contained engine := by
  intro p id c e passing _ hc he
  have text := passing.sameText
  have library : p.book.registry = Registry.library engine := text.registry.trans h.library
  obtain ⟨without, finite⟩ := (h.formulas.of_sameText text) id c e hc he
  refine ⟨library, ?_, fun name args called => finite (.call name args) called, ?_⟩
  · show p.book.now.IsValid
    rw [text.now]
    exact h.clock
  · exact Expr.not_overflows_of_noTotal library e without

/-- Whether no formula is found to call a conditional total. -/
def lacksTotals (w : Workbook) : Bool :=
  (w.formulasWhere fun e => !decide (e.WithoutTotals ∧ e.IsFinite)).isEmpty

theorem withoutTotals_create {now : Moment} (clock : now.IsValid) (settings : Settings) (seed : Nat)
    (engine : Regex.Engine) :
    (create settings now seed engine).WithoutTotals engine :=
  ⟨rfl, clock, eachFormula_create settings now seed engine⟩

theorem WithoutTotals.writeCell (h : w.WithoutTotals engine) (wired : w.Wired) (id : CellId)
    (raw : String) (lacks : (w.writeCell id raw).lacksTotals = true) :
    (w.writeCell id raw).WithoutTotals engine := by
  have edited := edited_writeCell wired id raw
  refine ⟨edited.registry.trans h.library, ?_, fun _ _ _ hc he => ?_⟩
  · rw [edited.now]
    exact h.clock
  · exact of_decide_eq_true (of_formulasWhere_eq_nil (List.isEmpty_iff.1 lacks) hc he)

theorem WithoutTotals.drain (h : w.WithoutTotals engine) (coherent : w.Coherent) {steps : Nat}
    (drained : w.drain steps = some w') :
    w'.WithoutTotals engine := by
  have text := (coherent.drain drained).2.2
  refine ⟨text.registry.trans h.library, ?_, h.formulas.of_sameText text⟩
  rw [text.now]
  exact h.clock

/-- If no formula called a conditional total at any time, all values on record are finite. -/
theorem ReachableWithin.holds_isFinite_of_withoutTotals
    (reachable : w.ReachableWithin (WithoutTotals engine)) :
    w.Holds Value.IsFinite :=
  (reachable.mono fun _ => WithoutTotals.contained).holds_isFinite

/-! ## Totals that overflow -/

/-- A new workbook in which two cells are written. -/
def ofTwo (id id' : CellId) (raw raw' : String) : Workbook :=
  ((create Settings.default ⟨⟨2000, 1, 1⟩, 0⟩ 0).writeCell id raw).writeCell id' raw'

theorem reachable_of_two {id id' : CellId} {raw raw' : String} {steps : Nat}
    (drained : (ofTwo id id' raw raw').drain steps = some w)
    (lacks : ((create Settings.default ⟨⟨2000, 1, 1⟩, 0⟩ 0).writeCell id raw).lacksTotals = true)
    (lacks' : (ofTwo id id' raw raw').lacksTotals = true) :
    w.ReachableWithin (WithoutTotals .standard) ∧ w.WithoutTotals .standard := by
  have coherent := (coherent_create Settings.default ⟨⟨2000, 1, 1⟩, 0⟩ 0 .standard).writeCell id raw
  have first := (withoutTotals_create ⟨by decide, by decide⟩ Settings.default 0 .standard).writeCell
    (coherent_create _ _ _ _).wired id raw lacks
  have second := first.writeCell coherent.wired id' raw' lacks'
  have without := second.drain (coherent.writeCell id' raw') drained
  exact ⟨.operation (.operation (.operation (.create _ _ _ _) (.write _ _) first)
    (.write _ _) second) (.drain drained) without, without⟩

/-- Whether a value is a number, and one that is not finite. -/
def infinite : Value → Bool
  | .scalar (.number x) => !x.isFinite
  | _ => false

theorem exists_of_infinite {v : Value} (h : infinite v = true) :
    ∃ x, v = .number x ∧ x.isFinite = false := by
  unfold infinite at h
  split at h
  next x => exact ⟨x, rfl, by rwa [Bool.not_eq_true'] at h⟩
  next => cases h

/-- **No infinite number but by a conditional total.** A built-in function comes to a finite value
over finite arguments, unless it is a conditional total and the numbers that it adds up leave
their range. So does a formula over finite cells, unless such a total gets through to its result;
and as long as none does in a pass, all values on record are finite, as they are in particular if
none is ever called. -/
theorem finite_but_for_totals (engine : Regex.Engine) (name : String) (f : Function)
    (c : Circumstances) (args : List Value) (env : Environment) (e : Expr) (calls : CallCounts)
    (w : Workbook) :
    ((Registry.library engine).find? name = some f → c.now.IsValid →
        (f.TakesWhole → FiniteArguments args) →
      ((f.call c args).IsFinite ↔ ¬ f.Overflows engine args)) ∧
    (env.IsFinite engine → e.IsFinite → ¬ e.Overflows engine env calls →
      (e.evaluate env calls).1.IsFinite) ∧
    (w.ReachableWithin (Contained engine) → ∀ x, (w.settledValue x).IsFinite) ∧
    (w.ReachableWithin (WithoutTotals engine) → ∀ x, (w.settledValue x).IsFinite) := by
  refine ⟨fun found clock finite => ?_, fun finite literals safe => ?_, fun reachable => ?_,
    fun reachable => ?_⟩
  · exact call_isFinite_iff found clock finite
  · exact Expr.evaluate_isFinite finite literals safe
  · exact reachable.holds_isFinite
  · exact reachable.holds_isFinite_of_withoutTotals

/-- The sum of the largest power of ten and itself is out of range. It is an error, and all values
on record are finite. -/
theorem finite_but_for_totals_of_doubled :
    ∃ (w : Workbook) (f : Function), w.ReachableWithin (Contained .standard) ∧
      w.ReachableWithin (WithoutTotals .standard) ∧
      (w.settledValue ⟨0, ⟨0, 1⟩⟩).error? = some .typeMismatch ∧
      (∀ x, (w.settledValue x).IsFinite) ∧
      Registry.library.find? "SUM" = some f ∧
      (f.call ⟨w.now, 0, 0⟩ [w.settledValue ⟨0, ⟨0, 0⟩⟩]).IsFinite ∧
      ((Expr.call "SUM" [.number 2.0]).evaluate (w.environment 0) .initial).1.IsFinite := by
  obtain ⟨w, drained, error⟩ :
    ∃ w, (ofTwo ⟨0, ⟨0, 0⟩⟩ ⟨0, ⟨0, 1⟩⟩ "1e308" "=SUM(A1,A1)").drain 60 = some w ∧
      (w.settledValue ⟨0, ⟨0, 1⟩⟩).error? = some .typeMismatch :=
    ⟨_, (Option.some_get (by decide +kernel)).symm, by decide +kernel⟩
  obtain ⟨reachable, without⟩ := reachable_of_two drained (by decide +kernel) (by decide +kernel)
  have contained : w.ReachableWithin (Contained .standard) :=
    reachable.mono fun _ => WithoutTotals.contained
  have found : (Registry.library.find? "SUM").isSome = true := by decide +kernel
  obtain ⟨f, found⟩ := Option.isSome_iff_exists.1 found
  obtain ⟨call, formula, within, ordinary⟩ :=
    finite_but_for_totals .standard "SUM" f ⟨w.now, 0, 0⟩ [w.settledValue ⟨0, ⟨0, 0⟩⟩]
    (w.environment 0) (.call "SUM" [.number 2.0]) .initial w
  have finite : w.Holds Value.IsFinite := ordinary reachable
  refine ⟨w, f, contained, reachable, error, within contained, found, ?_, ?_⟩
  · have one : 1 < Range.countLimit := by decide
    refine (call found without.clock fun _ => ⟨one, ?_⟩).2 fun ⟨total, _⟩ => ?_
    · exact fun v hv => List.mem_singleton.1 hv ▸ finite _
    · rw [(mem_library found).2] at total
      revert total
      decide +kernel
  · refine formula (finite.environment without.library without.clock 0) (by decide +kernel) ?_
    exact Expr.not_overflows_of_noTotal without.library _ (by decide +kernel)

/-- Over finite numbers a conditional total can come to infinity. In a cell, it comes on record. -/
theorem totals_can_overflow :
    ∃ (w w' : Workbook) (e : Expr) (x y : Float), w.Reachable ∧
      (w.environment 0).IsFinite .standard ∧ e.IsFinite ∧
      (e.evaluate (w.environment 0) .initial).1 = .number x ∧ x.isFinite = false ∧
      w'.Reachable ∧ w'.registry = Registry.library ∧ w'.settledValue ⟨0, ⟨0, 1⟩⟩ = .number y ∧
      y.isFinite = false := by
  let e :=
    Expr.call "SUMIF" [.range ⟨⟨none, 0, 0, false, false⟩, ⟨none, 1, 0, false, false⟩⟩, .text ">0"]
  obtain ⟨w, w', drained, drained', overflows, stored⟩ :
      ∃ w w', (ofTwo ⟨0, ⟨0, 0⟩⟩ ⟨0, ⟨1, 0⟩⟩ "1e308" "1e308").drain 60 = some w ∧
        (w.writeCell ⟨0, ⟨0, 1⟩⟩ "=SUMIF(A1:A2,\">0\")").drain 60 = some w' ∧
        infinite (e.evaluate (w.environment 0) .initial).1 = true ∧
        infinite (w'.settledValue ⟨0, ⟨0, 1⟩⟩) = true :=
    ⟨_, _, (Option.some_get (by decide +kernel)).symm,
      (Option.some_get (by decide +kernel)).symm, by decide +kernel,
      by decide +kernel⟩
  obtain ⟨reachable, without⟩ := reachable_of_two drained (by decide +kernel) (by decide +kernel)
  have finite : w.Holds Value.IsFinite := reachable.holds_isFinite_of_withoutTotals
  have anyhow : w.Reachable := reachable.mono fun _ _ => trivial
  have text : SameText _ w' := ((anyhow.coherent.writeCell _ _).drain drained').2.2
  have edited := edited_writeCell anyhow.coherent.wired ⟨0, ⟨0, 1⟩⟩ "=SUMIF(A1:A2,\">0\")"
  have library : w'.registry = Registry.library :=
    text.registry.trans (edited.registry.trans without.library)
  have reachable' : w'.Reachable :=
    (anyhow.write _ _).drain drained'
  obtain ⟨x, hx, infinite⟩ := exists_of_infinite overflows
  obtain ⟨y, hy, infinite'⟩ := exists_of_infinite stored
  exact ⟨w, w', e, x, y, anyhow,
    finite.environment without.library without.clock 0, by decide +kernel, hx, infinite,
    reachable', library, hy, infinite'⟩

end Workbook

end Spreadsheet
