import Spreadsheet.Proofs.Graph.Alone
import Spreadsheet.Proofs.Workbook.Loop
import Spreadsheet.Proofs.Workbook.Recompiled

/-!
# `Proofs/Workbook/Surfaced.lean` — cells on a loop show it, or wait

A cell is `Surfaced` if it is not settled on anything but the error of a loop. Edits keep the
cells of a loop surfaced as long as the loop is alone: one that a write closes is queued as a
whole, since the search cannot find another, and any other was there before and is not disturbed.

Where loops share cells this fails at once. A write can close several of them, and queues the
cells of just one.

That a loop is alone is asked of the edges as they are after the operation. While formulas are
compiled again one by one, the edges only become more, so what is alone at the end was alone
before.
-/

set_option autoImplicit false

namespace Spreadsheet.Workbook

open Spreadsheet.Graph (SameLoop Alone)

variable {w w' : Workbook} {order : Enumeration} {id x y a b : CellId} {c : Cell} {raw : String}

/-! ## Cells that are queued at most -/

/-- The record of a cell is what it was, or the cell was settled and is queued now. -/
def Kept (w w' : Workbook) (x : CellId) : Prop :=
  w'.cell? x = w.cell? x ∨
    ∃ c, w.cell? x = some c ∧ c.state.Settled ∧ w'.cell? x = some { c with state := .dirty }

theorem Marked.kept (marked : Marked w w') (x : CellId) : Kept w w' x := by
  rcases marked.cell x with same | ⟨c, hc, settled, hc', -⟩
  · exact .inl same
  · exact .inr ⟨c, hc, settled, hc'⟩

theorem Edited.kept (edited : Edited id w w') (hx : x ≠ id) : Kept w w' x := by
  rcases edited.cell x hx with same | ⟨c, hc, settled, hc', -⟩
  · exact .inl same
  · exact .inr ⟨c, hc, settled, hc'⟩

namespace Kept

theorem cell?_of_settled (kept : Kept w w' x) (hc : w'.cell? x = some c)
    (settled : c.state.Settled) :
    w.cell? x = some c := by
  rcases kept with same | ⟨c', -, -, hc'⟩
  · rw [← same, hc]
  · rw [hc] at hc'
    cases hc'
    exact absurd settled CellState.not_settled_dirty

theorem precedentsOf (kept : Kept w w' x) : w'.precedentsOf x = w.precedentsOf x := by
  rcases kept with same | ⟨c, hc, -, hc'⟩
  · unfold Workbook.precedentsOf
    rw [same]
  · rw [precedentsOf_of_cell? hc, precedentsOf_of_cell? hc']

/-- A cell that waits or is being evaluated goes on doing so. -/
theorem state?_of_unsettled (kept : Kept w w' x) {s : CellState} (unsettled : ¬ s.Settled)
    (hs : w.state? x = some s) :
    w'.state? x = some s := by
  obtain ⟨c, hc, rfl⟩ := state?_eq_some.1 hs
  rcases kept with same | ⟨c', hc', settled, -⟩
  · exact state?_eq_some.2 ⟨c, same.trans hc, rfl⟩
  · rw [hc] at hc'
    cases hc'
    exact absurd settled unsettled

/-- No cell begins to be evaluated. -/
theorem state?_evaluating (kept : Kept w w' x) (hs : w'.state? x = some .evaluating) :
    w.state? x = some .evaluating := by
  obtain ⟨c, hc, state⟩ := state?_eq_some.1 hs
  rcases kept with same | ⟨c', -, -, hc'⟩
  · exact state?_eq_some.2 ⟨c, same ▸ hc, state⟩
  · rw [hc] at hc'
    cases hc'
    cases state

end Kept

/-! ## Surfaced cells -/

/-- If the cell is settled, it is on the error of a loop. -/
def Surfaced (w : Workbook) (y : CellId) : Prop :=
  ∀ c, w.cell? y = some c → c.state.Settled → c.value = .error .cycle ∧ c.state = .error

/-- All cells that lie on a loop with this one are surfaced. -/
def Surfaces (w : Workbook) (x : CellId) : Prop := ∀ y, SameLoop w.Reads x y → w.Surfaced y

theorem Kept.surfaced (kept : Kept w w' y) (h : w.Surfaced y) : w'.Surfaced y :=
  fun c hc settled => h c (kept.cell?_of_settled hc settled) settled

theorem Marked.surfaces (marked : Marked w w') (h : w.Surfaces x) : w'.Surfaces x := by
  intro y hy
  rw [marked.text.reads] at hy
  exact (marked.kept y).surfaced (h y hy)

/-! ## Writing and clearing -/

theorem Edited.reads_iff (edited : Edited id w w') (ha : a ≠ id) : w'.Reads a b ↔ w.Reads a b := by
  unfold Reads
  rw [(edited.kept ha).precedentsOf]

/-- An edit does not disturb a loop that the edited cell is not on. -/
theorem Edited.surfaces (edited : Edited id w w') (h : w.Surfaces x)
    (off : ¬ SameLoop w'.Reads x id) :
    w'.Surfaces x := by
  have other : ∀ {y}, SameLoop w'.Reads x y → y ≠ id := by
    rintro y hy rfl
    exact off hy
  intro y hy
  have before : SameLoop w.Reads x y :=
    hy.of_kept fun a b ha reads => (edited.reads_iff (other ha)).1 reads
  exact (edited.kept (other hy)).surfaced (h y before)

/-- A write looks for the loop that it has closed if there is one. -/
theorem closedLoop?_of_onLoop (wired : w.Wired) (loop : w.OnLoop id) :
    w.closedLoop? id = w.loopOfDependents? id := by
  obtain ⟨d, reads, -⟩ := Relation.TransGen.head'_iff.1 loop
  obtain ⟨r, -, read⟩ := Relation.TransGen.tail'_iff.1 loop
  have reading : (w.precedentsOf id).isEmpty = false := by
    rw [Std.ExtTreeSet.isEmpty_eq_false_iff]
    exact Std.ExtTreeSet.ne_empty_of_mem reads
  have isRead : w.dependents.contains id = true := wired.contains_iff.2 ⟨r, read⟩
  unfold closedLoop?
  rw [reading, isRead]
  rfl

/-- A write queues the whole loop that the cell lies on after it. -/
theorem not_isSettled_writeCell (wired : w.Wired) (alone : Alone (w.writeCell id raw).Reads x)
    (on : SameLoop (w.writeCell id raw).Reads x id) (hy : SameLoop (w.writeCell id raw).Reads x y) :
    ¬ (w.writeCell id raw).IsSettled y := by
  have wired' : (w.queued id raw).Wired :=
    (wired_placed wired).of_sameText (marked_queued w id raw).1.text
  obtain ⟨marked, unsettled⟩ :=
    marked_foldl_markDirty (((w.queued id raw).closedLoop? id).getD []) (w.queued id raw)
  rw [writeCell_eq] at alone on hy ⊢
  rw [marked.text.reads] at alone on hy
  have loop : (w.queued id raw).OnLoop id := on.right.1
  obtain ⟨members, found⟩ :=
    Option.isSome_iff_exists.1 ((loopOfDependents?_isSome_iff wired').2 loop)
  have closed := closedLoop?_of_onLoop wired' loop
  refine unsettled y ?_
  rw [closed, found]
  have isLoop := isLoop_of_loopOfDependents? wired' found
  exact alone.mem_of_isLoop_swap isLoop isLoop.start_mem on hy

theorem Surfaces.writeCell (h : w.Surfaces x) (wired : w.Wired)
    (alone : Alone (w.writeCell id raw).Reads x) :
    (w.writeCell id raw).Surfaces x := by
  by_cases on : SameLoop (w.writeCell id raw).Reads x id
  · intro y hy c hc settled
    exact absurd ⟨c, hc, settled⟩ (not_isSettled_writeCell wired alone on hy)
  · exact (edited_writeCell wired id raw).surfaces h on

theorem Surfaces.clearCell (h : w.Surfaces x) (wired : w.Wired) (id : CellId) :
    (w.clearCell id).Surfaces x := by
  rcases edited_clearCell wired id with same | edited
  · rw [same]
    exact h
  · refine edited.surfaces h fun on => ?_
    obtain ⟨d, reads, -⟩ := on.exists_next
    obtain ⟨c, hc⟩ := Reads.cell? reads
    rw [cell?_clearCell_self wired id] at hc
    cases hc

/-! ## New sheets and functions -/

/-- On the way to a workbook in which a loop is alone, each recompilation finds it so. -/
theorem Surfaces.recompile (ids : List CellId) {w : Workbook} (h : w.Surfaces x)
    (outgrown : w.Outgrown) (wired : w.Wired) (alone : Alone (ids.foldl recompile w).Reads x) :
    (ids.foldl recompile w).Surfaces x := by
  induction ids generalizing w with
  | nil => exact h
  | cons id ids ih =>
    have outgrown' := (outgrown.recompile wired id).1
    have wired' := (compile_recompile wired id).2.2.2
    -- Readings are only added from here on, so that a loop which is alone in the end is so now.
    have alone' : Alone (w.recompile id).Reads x :=
      alone.anti fun a b reads => outgrown'.reads_foldl ids wired' reads
    refine ih ?_ outgrown' wired' alone
    unfold Workbook.recompile at alone' ⊢
    cases hc : w.cell? id with
    | none => exact h
    | some c =>
      rw [hc] at alone'
      exact h.writeCell wired alone'

/-- Before any formula is compiled again, a workbook with a new sheet or function has the loops that
it had before. -/
theorem Surfaces.of_slots (h : w.Surfaces x) (slots : w'.slots = w.slots) : w'.Surfaces x := by
  intro y hy c hc
  rw [reads_of_slots slots] at hy
  rw [cell?_of_slots slots] at hc
  exact h y hy c hc

theorem Surfaces.addSheet (h : w.Surfaces x) (coherent : w.Coherent) {name : String} {sheet : Nat}
    (added : w.addSheet name order = .ok (sheet, w')) (alone : Alone w'.Reads x) :
    w'.Surfaces x := by
  rcases addSheet_cases added with rfl | ⟨name, a, rfl, rfl⟩
  · exact h
  · let a : Workbook := { w with sheets := w.sheets ++ [name] }
    have start : a.Surfaces x := h.of_slots rfl
    have outgrown : a.Outgrown := coherent.outgrown rfl rfl (sheetOf?_of_append rfl)
    exact start.recompile _ outgrown (coherent.wired.of_records rfl rfl) alone

theorem Surfaces.addFunction (h : w.Surfaces x) (coherent : w.Coherent) (f : Function)
    (order : Enumeration) (alone : Alone (w.addFunction f order).Reads x) :
    (w.addFunction f order).Surfaces x := by
  let a : Workbook := { w with registry := w.registry.insert f, calls := w.calls.reset f.name }
  have start : a.Surfaces x := h.of_slots rfl
  have outgrown : a.Outgrown := coherent.outgrown rfl rfl fun _ _ _ found => found
  exact start.recompile _ outgrown (coherent.wired.of_records rfl rfl) alone

end Spreadsheet.Workbook
