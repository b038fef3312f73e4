import Spreadsheet.Proofs.Workbook.Reachable

/-!
# `Proofs/Recalculation/Reports.lean` — the error of a loop is never reported without a loop

A value can keep the error of a loop long after the loop was broken, and can be on record then
while every edge that once made up the loop is gone. But when every cell is settled, each cell
with the error reads another with it (`Traced`). Following these one cannot go on for ever, unless
one comes to a loop: there are only so many cells that read something.

No order of evaluation comes into this. That a cell with the error reads another with it holds of
every settled workbook, since every step keeps it, and what was written before matters only for
which cells read which.
-/

set_option autoImplicit false

namespace Spreadsheet.Workbook

variable {w w' : Workbook} {x : CellId}

/-- A settled cell with the error of a loop in its value reads one with it. -/
theorem Coherent.exists_reads (coherent : w.Coherent) (settled : w.AllSettled)
    (safe : w.EachFormula Expr.CycleSafe) (h : (w.settledValue x).Contains .cycle) :
    ∃ y, w.Reads x y ∧ (w.settledValue y).Contains .cycle := by
  cases hc : w.cell? x with
  | none =>
    rw [settledValue_of_none hc] at h
    exact absurd h Value.not_contains_scalar
  | some c =>
    rw [settledValue_of_cell? hc] at h
    exact (coherent.sound x (by simp)).traced c hc (settled x c hc) (safe.content_cycleSafe hc) h

/-- In a settled workbook, the error of a loop in a value comes from a loop that the cell reads. -/
theorem Coherent.exists_onLoop (coherent : w.Coherent) (settled : w.AllSettled)
    (safe : w.EachFormula Expr.CycleSafe) (h : (w.settledValue x).Contains .cycle) :
    ∃ y, Relation.ReflTransGen w.Reads x y ∧ w.OnLoop y :=
  Workbook.exists_onLoop (S := fun y => (w.settledValue y).Contains .cycle)
    (fun _ hy => coherent.exists_reads settled safe hy) h

theorem contains_of_isCyclic (h : w.isCyclic x = true) : (w.settledValue x).Contains .cycle := by
  unfold isCyclic at h
  split at h
  next hv =>
    rw [hv]
    exact .error
  next => cases h

/-- **No false reports.** When a workbook is settled, a cell holds the error of a loop only if it
lies on a loop or reads, directly or through others, a cell that does. So once no loop is left and
every waiting cell is settled, no cell holds the error any more. -/
theorem cyclic_only_by_loops (reachable : w.Reachable) (safe : w.EachFormula Expr.CycleSafe) :
    (w.AllSettled → ∀ x, w.isCyclic x = true → ∃ y, Relation.ReflTransGen w.Reads x y ∧
        w.OnLoop y) ∧
      (w.Acyclic → ∀ steps w', w.drain steps = some w' → ∀ x, w'.isCyclic x = false) := by
  have coherent := reachable.coherent
  constructor
  · intro settled x cyclic
    exact coherent.exists_onLoop settled safe (contains_of_isCyclic cyclic)
  · intro acyclic steps w' drained x
    -- A pass leaves all cells settled and changes nothing written, so there are no loops after
    -- it.
    obtain ⟨coherent', settled, text⟩ := coherent.drain drained
    rw [← Bool.not_eq_true]
    intro cyclic
    obtain ⟨y, -, loop⟩ :=
      coherent'.exists_onLoop settled (safe.of_sameText text) (contains_of_isCyclic cyclic)
    exact acyclic.of_sameText text y loop

/-- A cell that reads one of two that read each other, and the error that is gone once they do
not. -/
theorem cyclic_only_by_loops_of_pair :
    ∃ w w₁ w₂ : Workbook, w.drain 30 = some w₁ ∧ w₁.isCyclic ⟨0, ⟨0, 2⟩⟩ = true ∧
      (∃ y, Relation.ReflTransGen w₁.Reads ⟨0, ⟨0, 2⟩⟩ y ∧ w₁.OnLoop y) ∧
      (w₁.writeCell ⟨0, ⟨0, 1⟩⟩ "5").Acyclic ∧ (w₁.writeCell ⟨0, ⟨0, 1⟩⟩ "5").drain 30 = some w₂ ∧
      w₂.isCyclic ⟨0, ⟨0, 2⟩⟩ = false := by
  have safe : ∀ w : Workbook, w.formulasWhere (fun e => !e.callsOnly []) = [] →
    w.EachFormula Expr.CycleSafe :=
    fun w none => eachFormula_of_callsOnly none fun _ h => Expr.cycleSafe_of_callsOnly h nofun
  let w := (((create Settings.default ⟨⟨2000, 1, 1⟩, 0⟩ 0).writeCell ⟨0, ⟨0, 0⟩⟩ "=B1").writeCell
    ⟨0, ⟨0, 1⟩⟩
    "=A1").writeCell ⟨0, ⟨0, 2⟩⟩ "=A1+1"
  have reachable : w.Reachable := (((reachable_create _ _ _ _).write _ _).write _ _).write _ _
  let w₁ := (w.drain 30).get (by decide +kernel)
  have drained : w.drain 30 = some w₁ := (Option.some_get _).symm
  have settled : w₁.AllSettled := (reachable.coherent.drain drained).2.1
  have reachable₁ : w₁.Reachable := reachable.drain drained
  have cyclic : w₁.isCyclic ⟨0, ⟨0, 2⟩⟩ = true := by decide +kernel
  have found := (cyclic_only_by_loops reachable₁ (safe _ (by decide +kernel))).1 settled _ cyclic
  -- The loop is broken while both of its cells and the reader still hold the error.
  let w₂ := ((w₁.writeCell ⟨0, ⟨0, 1⟩⟩ "5").drain 30).get (by decide +kernel)
  have drained₂ : (w₁.writeCell ⟨0, ⟨0, 1⟩⟩ "5").drain 30 = some w₂ := (Option.some_get _).symm
  have acyclic : (w₁.writeCell ⟨0, ⟨0, 1⟩⟩ "5").Acyclic := by decide +kernel
  have recovered := (cyclic_only_by_loops (reachable₁.write _ _)
    (safe _ (by decide +kernel))).2 acyclic 30 w₂ drained₂ ⟨0, ⟨0, 2⟩⟩
  exact ⟨w, w₁, w₂, drained, cyclic, found, acyclic, drained₂, recovered⟩

end Spreadsheet.Workbook
