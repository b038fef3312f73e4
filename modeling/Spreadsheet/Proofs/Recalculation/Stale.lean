import Spreadsheet.Proofs.Function.Logical
import Spreadsheet.Proofs.Recalculation.Stored

/-!
# `Proofs/Recalculation/Stale.lean` — values that a pass leaves behind

With loops about, a settled value need not be what its formula comes to. When a loop is settled
its members are put on the error of a loop without being evaluated; when it is broken later, a
former member is evaluated again only if a value that it reads changes. So a formula that catches
errors can be left with the error though it lies on no loop any more, as long as what it reads
keeps the error for another reason (`stale_off_loops`). Nothing else goes stale (`stale_iff`).

The formulas must have been lawful at every stage. Then no value on record ever has a not-a-number
in it, which would never be the same as itself (`ReachableWithin.proper`).
-/

set_option autoImplicit false

namespace Spreadsheet

namespace Workbook

variable {w w' : Workbook} {id x : CellId} {c : Cell} {e : Expr}

/-! ## No value is a not-a-number -/

/-- No value on record has a not-a-number in it. -/
def Proper (w : Workbook) : Prop := ∀ x, (w.settledValue x).Same (w.settledValue x)

theorem proper_blank : Value.blank.Same .blank := .scalar rfl

/-- Evaluating a lawful content makes no not-a-number. -/
theorem Proper.evaluated (proper : w.Proper) {sheet : Nat} {content : Content}
    (lawful : content.Lawful w.registry) :
    (w.evaluated sheet content).Same (w.evaluated sheet content) :=
  evaluated_same lawful (.inl rfl)
    (fun _ _ => looksAlike_of_eq rfl rfl rfl fun _ _ => rfl) fun _ _ d _ => proper d

theorem Proper.drain (proper : w.Proper) (coherent : w.Coherent)
    (lawful : w.EachFormula Expr.Lawful) {steps : Nat} (drained : w.drain steps = some w') :
    w'.Proper := by
  let I : Pass → Prop := fun p => p.Invariant ∧ p.book.EachFormula Expr.Lawful ∧ p.book.Proper
  have keeps : ∀ {p q}, Pass.Stepped p q → I p → I q := by
    intro p q step ⟨invariant, lawful, proper⟩
    refine ⟨step.invariant invariant, lawful.of_sameText step.sameText, ?_⟩
    refine step.holds (fun v => v.Same v) proper_blank (.error .cycle)
      (fun id c _ _ hc => ?_) proper
    exact proper.evaluated (lawful.content_lawful (invariant.sound id).compiled hc)
  exact (Pass.run_keeps keeps drained ⟨coherent.invariant, lawful, proper⟩).1.2.2

theorem Operation.proper (operation : Operation w w') (coherent : w.Coherent)
    (lawful : w.EachFormula Expr.Lawful) (proper : w.Proper) : w'.Proper := by
  refine operation.holds (fun v => v.Same v) proper_blank coherent.wired proper
    fun v steps w' begins drained => ?_
  obtain ⟨coherent, text⟩ := begins.coherent coherent
  have begun : v.Proper := by
    intro x
    rw [begins.settledValue]
    exact proper x
  exact begun.drain coherent (lawful.of_sameText text) drained

/-- If the formulas were lawful at every stage, no value has a not-a-number in it. -/
theorem ReachableWithin.proper (reachable : w.ReachableWithin (·.EachFormula Expr.Lawful)) :
    w.Proper := by
  induction reachable with
  | create settings now seed engine =>
    exact holds_create (fun v => v.Same v) proper_blank settings now seed engine
  | operation reachable operation _ ih =>
    exact operation.proper reachable.coherent (reachable.within eachFormula_create) ih

/-! ## What goes stale -/

/-- **What goes stale.** After a pass, a cell whose formula calls stable functions only does not
hold what the formula comes to over the values on record exactly if it still holds the error of a
loop and the formula comes to something else. Then one of the cells that it reads holds the error
too. -/
theorem stale_iff (reachable : w.ReachableWithin (·.EachFormula Expr.Lawful)) {steps : Nat}
    (drained : w.drain steps = some w') (hc : w'.cell? x = some c)
    (he : c.compiled.content = .formula e) (stable : e.Stable w'.registry) :
    (¬ c.value.Same (w'.evaluated x.sheet c.compiled.content) ↔
      c.value = .error .cycle ∧ w'.evaluated x.sheet c.compiled.content ≠ .error .cycle) ∧
    (¬ c.value.Same (w'.evaluated x.sheet c.compiled.content) →
      ∃ d, w'.Reads x d ∧ w'.settledValue d = .error .cycle) := by
  obtain ⟨coherent, settled, text⟩ := reachable.coherent.drain drained
  have lawful : w.EachFormula Expr.Lawful := reachable.within eachFormula_create
  have proper := reachable.proper.drain reachable.coherent lawful drained
  have sound := coherent.sound x (by simp)
  have stableAt : w'.StableAt x := by
    intro c' hc'
    rw [hc] at hc'
    cases hc'
    rw [he]
    exact stable
  have lawful := (lawful.of_sameText text).content_lawful sound.compiled hc
  -- Soundness leaves two cases: the value is what the formula comes to, or it is the error of a
  -- loop.
  rcases sound.consistent stableAt c hc (settled x c hc) lawful (fun d _ => proper d) with same |
    ⟨cyclic, reads⟩
  · refine ⟨⟨fun stale => absurd same stale, fun ⟨cyclic, other⟩ => ?_⟩,
      fun stale => absurd same stale⟩
    exact absurd (Value.Close.eq_error (.inr same) cyclic) other
  · refine ⟨⟨fun stale => ⟨cyclic, fun also => ?_⟩, fun ⟨_, other⟩ same => ?_⟩, fun _ => reads⟩
    · rw [cyclic, also] at stale
      exact stale (.error .cycle)
    · exact other (Value.Close.eq_error (.inr same) cyclic)

/-- Three cells on a loop, the first of which catches errors. The loop is broken by a cell that
then reads itself: the second cell keeps the error, and so does the first, which is on no loop any
more. -/
theorem exists_left_behind :
    ∃ (w w' : Workbook) (c : Cell) (e : Expr), w.ReachableWithin (·.EachFormula Expr.Lawful) ∧
      w.drain 60 = some w' ∧
      ¬ w'.OnLoop ⟨0, ⟨0, 0⟩⟩ ∧ w'.cell? ⟨0, ⟨0, 0⟩⟩ = some c ∧ c.compiled.content = .formula e ∧
      e.Stable w'.registry ∧ c.value = .error .cycle ∧
      w'.evaluated 0 c.compiled.content ≠ .error .cycle := by
  have catches : ∀ name ∈ ["IFERROR"], ∀ f, Registry.library.find? name = some f →
    f.Lawful ∧ f.volatility = .stable := by
    intro name mem f found
    rw [List.mem_singleton.1 mem, Logical.find?_library_ifError] at found
    cases found
    exact ⟨Logical.catching_lawful _ _ _ _, rfl⟩
  have lawful : ∀ w : Workbook, w.registry = Registry.library →
      w.formulasWhere (fun e => !e.callsOnly ["IFERROR"]) = [] → w.EachFormula Expr.Lawful := by
    intro w library only
    refine eachFormula_of_callsOnly only fun e h => Expr.lawful_of_callsOnly h ?_
    rw [library]
    exact fun name mem f found => (catches name mem f found).1
  -- The loop is settled, and then one of its cells is made to read itself.
  let w₀ := create Settings.default ⟨⟨2000, 1, 1⟩, 0⟩ 0
  let w₁ := w₀.writeCell ⟨0, ⟨0, 0⟩⟩ "=IFERROR(B1,7)"
  let w₂ := w₁.writeCell ⟨0, ⟨0, 1⟩⟩ "=C1"
  let w₃ := w₂.writeCell ⟨0, ⟨0, 2⟩⟩ "=A1"
  let w₄ := (w₃.drain 60).get (by decide +kernel)
  let w := w₄.writeCell ⟨0, ⟨0, 2⟩⟩ "=C1"
  let w' := (w.drain 60).get (by decide +kernel)
  have coherent₀ : w₀.Coherent := coherent_create _ _ _ _
  have coherent₁ : w₁.Coherent := coherent₀.writeCell _ _
  have coherent₂ : w₂.Coherent := coherent₁.writeCell _ _
  have coherent₃ : w₃.Coherent := coherent₂.writeCell _ _
  have drained₃ : w₃.drain 60 = some w₄ := (Option.some_get _).symm
  obtain ⟨coherent₄, -, text₄⟩ := coherent₃.drain drained₃
  have drained : w.drain 60 = some w' := (Option.some_get _).symm
  obtain ⟨-, -, text⟩ := (coherent₄.writeCell _ _).drain drained
  have library₁ : w₁.registry = Registry.library := (edited_writeCell coherent₀.wired _ _).registry
  have library₂ : w₂.registry = Registry.library :=
    (edited_writeCell coherent₁.wired _ _).registry.trans library₁
  have library₃ : w₃.registry = Registry.library :=
    (edited_writeCell coherent₂.wired _ _).registry.trans library₂
  have library₄ : w₄.registry = Registry.library := text₄.registry.trans library₃
  have library₅ : w.registry = Registry.library :=
    (edited_writeCell coherent₄.wired _ _).registry.trans library₄
  -- All the way there, the formulas call nothing but `IFERROR`.
  have reachable : w.ReachableWithin (·.EachFormula Expr.Lawful) := by
    refine .operation (w := w₄) ?_ (.write _ _) (lawful w library₅ (by decide +kernel))
    refine .operation (w := w₃) ?_ (.drain drained₃) (lawful w₄ library₄ (by decide +kernel))
    refine .operation (w := w₂) ?_ (.write _ _) (lawful w₃ library₃ (by decide +kernel))
    refine .operation (w := w₁) ?_ (.write _ _) (lawful w₂ library₂ (by decide +kernel))
    exact .operation (.create _ _ _ _) (.write _ _) (lawful w₁ library₁ (by decide +kernel))
  have listed : ⟨0, ⟨0, 0⟩⟩ ∈ w'.formulasWhere (fun e => e.callsOnly ["IFERROR"]) := by
    decide +kernel
  obtain ⟨c, e, hc, he, only⟩ := mem_formulasWhere.1 listed
  have value : (w'.cell? ⟨0, ⟨0, 0⟩⟩).map (fun c => c.value.error?) = some (some .cycle) := by
    decide +kernel
  have comes : (w'.cell? ⟨0, ⟨0, 0⟩⟩).map (fun c => (w'.evaluated 0 c.compiled.content).error?) =
    some none := by
    decide +kernel
  rw [hc, Option.map_some, Option.some.injEq] at value comes
  refine ⟨w, w', c, e, reachable, drained, by decide +kernel, hc, he, ?_, ?_, fun cyclic => ?_⟩
  · refine Expr.stable_of_callsOnly only ?_
    rw [text.registry, library₅]
    exact fun name mem f found => (catches name mem f found).2
  · cases hv : c.value with
    | error code =>
      rw [hv] at value
      cases value
      rfl
    | _ =>
      rw [hv] at value
      cases value
  · rw [cyclic] at comes
    cases comes

/-- A cell on no loop can be left with the error of one, though its formula comes to something
else. -/
theorem stale_off_loops :
    ∃ (w w' : Workbook) (x : CellId) (c : Cell) (e : Expr),
      w.ReachableWithin (·.EachFormula Expr.Lawful) ∧
      w.drain 60 = some w' ∧ ¬ w'.OnLoop x ∧ w'.cell? x = some c ∧ c.compiled.content = .formula e ∧
      e.Stable w'.registry ∧ ¬ c.value.Same (w'.evaluated x.sheet c.compiled.content) := by
  obtain ⟨w, w', c, e, reachable, drained, off, hc, he, stable, cyclic, other⟩ := exists_left_behind
  refine ⟨w, w', ⟨0, ⟨0, 0⟩⟩, c, e, reachable, drained, off, hc, he, stable, fun same => ?_⟩
  exact other (Value.Close.eq_error (.inr same) cyclic)

/-- The cell left behind reads the error. -/
theorem stale_iff_of_left_behind :
    ∃ (w w' : Workbook) (c : Cell) (d : CellId), w.drain 60 = some w' ∧
      w'.cell? ⟨0, ⟨0, 0⟩⟩ = some c ∧
      ¬ c.value.Same (w'.evaluated 0 c.compiled.content) ∧ w'.Reads ⟨0, ⟨0, 0⟩⟩ d ∧
      w'.settledValue d = .error .cycle := by
  obtain ⟨w, w', c, e, reachable, drained, -, hc, he, stable, cyclic, other⟩ := exists_left_behind
  obtain ⟨iff, reads⟩ := stale_iff reachable drained hc he stable
  have stale := iff.2 ⟨cyclic, other⟩
  obtain ⟨d, hd, error⟩ := reads stale
  exact ⟨w, w', c, d, drained, hc, stale, hd, error⟩

end Workbook

end Spreadsheet
