import Spreadsheet.Proofs.Function.Date
import Spreadsheet.Proofs.Function.Logical
import Spreadsheet.Proofs.Recalculation.Meaning
import Spreadsheet.Proofs.Workbook.Session

/-!
# `Proofs/Recalculation/Clock.lean` — a full pass brings every cell to the present

Soundness says nothing of the value of a settled cell whose formula looks at the clock: the clock
moves on, and the value stays. Whoever reads such a cell is consistent with the old value all the
same, and so the whole sheet may be made of several times.

A full pass queues the cells whose own formulas call a volatile function, and no others. That is
enough for every settled cell to be consistent *now* (`Coherent.consistent_queueVolatile`): a cell
that was not queued calls stable functions only. From there on every step keeps all cells
consistent, as the clock stands still during a pass (`Stepped.consistent`). What the pass leaves
is consistent everywhere, and without loops there is one way to be that.
-/

set_option autoImplicit false

namespace Spreadsheet

namespace Pass

open Workbook

variable {p q : Pass} {w : Workbook}

/-- Every step keeps all cells consistent. -/
theorem Stepped.consistent (h : Stepped p q) (invariant : p.Invariant)
    (all : ∀ x, p.book.Consistent x) (x : CellId) :
    q.book.Consistent x := by
  have compiled := (invariant.sound x).compiled
  have clock : p.book.now = q.book.now := h.sameText.now.symm
  cases h with
  | @fetch w id rest pending =>
    exact (undisturbed_queue w rest x).consistent compiled (.inl rfl) (all x)
  | @evaluate w id stack state =>
    obtain ⟨c, hc, -⟩ := state?_eq_some.1 state
    -- The cell that is evaluated comes to what its formula says now; the others are undisturbed.
    by_cases hx : x = id
    · subst hx
      exact consistent_evaluateCell_self invariant.wired hc compiled
    · exact (undisturbed_evaluateCell invariant.wired hc hx).consistent compiled
        (.inl clock) (all x)
  | drop => exact all x
  | @expand w id stack pushed state pushes rest =>
    obtain ⟨c, hc, -⟩ := state?_eq_some.1 state
    exact (undisturbed_beginEvaluation hc x).consistent compiled (.inl clock) (all x)
  | @close w id stack pushed members state pushes loop =>
    obtain ⟨c, hc, -⟩ := state?_eq_some.1 state
    have text := sameText_beginEvaluation hc
    have begun :=
      (undisturbed_beginEvaluation hc x).consistent compiled (.inl text.now.symm) (all x)
    obtain ⟨start, found, -⟩ := isLoop_of_close hc invariant.tracked loop
    rw [← text.reads] at found
    -- Members are consistent for having the error of a loop and reading another one with it.
    by_cases hx : x ∈ members
    · exact consistent_settleLoop_of_mem (fun m hm => found.next hm) hx
    · refine (undisturbed_settleLoop (invariant.wired.of_sameText text) hx).consistent
        (text.compiledAt compiled) ?_ begun
      exact .inl (sameText_settleLoop members _).now.symm

/-- A pass over consistent cells leaves them consistent. -/
theorem run_consistent {steps : Nat} (h : run steps p = some w) (invariant : p.Invariant)
    (all : ∀ x, p.book.Consistent x) (x : CellId) : w.Consistent x :=
  (run_keeps (I := fun p => p.Invariant ∧ ∀ x, p.book.Consistent x)
    (fun step kept => ⟨step.invariant kept.1, step.consistent kept.1 kept.2⟩) h
    ⟨invariant, all⟩).1.2 x

end Pass

namespace Workbook

variable {w w' : Workbook}

/-- When all volatile cells are queued, the settled cells that are left are consistent, whatever
time it was when they were evaluated. -/
theorem Coherent.consistent_queueVolatile (coherent : w.Coherent) (x : CellId) :
    (w.volatileCells.foldl markDirty w).Consistent x := by
  obtain ⟨marked, queued⟩ := marked_foldl_markDirty w.volatileCells w
  by_cases volatile : x ∈ w.volatileCells
  · intro c hc settled
    exact absurd ⟨c, hc, settled⟩ (queued x volatile)
  · have sound := coherent.sound x (by simp)
    have stable : w.StableAt x := sound.compiled.stableAt fun c hc =>
      Bool.eq_false_iff.2 fun flag => volatile (mem_volatileCells.2 ⟨c, hc, flag⟩)
    exact (marked.undisturbed x).consistent sound.compiled (.inl marked.text.now.symm)
      (sound.consistent stable)

theorem Coherent.recalculate_consistent (coherent : w.Coherent) {steps : Nat}
    (done : w.recalculate steps = some w') (x : CellId) : w'.Consistent x :=
  Pass.run_consistent done
    (coherent.of_marked (marked_foldl_markDirty w.volatileCells w).1).invariant
    coherent.consistent_queueVolatile x

/-- What a full pass leaves of a workbook without loops is what the workbook means at the time of
the pass. -/
theorem Coherent.recalculate_same_meaning (coherent : w.Coherent) (acyclic : w.Acyclic)
    (lawful : w.EachFormula Expr.Lawful) (safe : w.EachFormula Expr.CycleSafe) {steps : Nat}
    (done : w.recalculate steps = some w') (x : CellId) :
    (w'.settledValue x).Same (w.meaning acyclic x) := by
  obtain ⟨coherent', settled, text⟩ := coherent.recalculate done
  have alike := WrittenAlike.of_sameText text
  have acyclic' := alike.acyclic coherent coherent' acyclic
  have holds := coherent'.same_meaning_of_consistent settled acyclic' (lawful.of_sameText text)
    (safe.of_sameText text)
    (coherent.recalculate_consistent done) x
  exact holds.trans (alike.same_meaning coherent coherent' acyclic acyclic' lawful
    (.inl text.now.symm) x).symm

theorem Coherent.exists_recalculate (coherent : w.Coherent) (acyclic : w.Acyclic) :
    ∃ steps w', w.recalculate steps = some w' :=
  coherent.exists_recalculate_of_separate acyclic.separate acyclic.surfaces

end Workbook

end Spreadsheet
