import Spreadsheet.Proofs.Workbook.Reachable
import Spreadsheet.Proofs.Workbook.Surfaced

/-!
# `Proofs/Recalculation/Surfacing.lean` — a loop that is alone always surfaces

Of the cells on a loop that is alone, none is ever evaluated. When one of them is expanded, it
finds the next one on the loop waiting, and puts it on top of itself; or being evaluated, or
settled on the error of a loop, and then the whole loop is settled. So above the last frame of a
cell of the loop that is being evaluated, there is always a frame of the next one that has still
its part to do (`Guarded`), and the cell itself cannot come to the top before that. In the end the
stack is empty and all are settled, which leaves them nothing but the error.

This is false of loops that share cells (`loops_need_not_surface`): settling one loop takes the
next cell of another away from above a cell that is being evaluated, which then finds an error
where it should have found a loop, and may well turn it into something else.

What a step does to the stack is said for one cell of the loop at a time, whether it pushes
frames, takes one away, or leaves the stack as it is; a case for each kind of step puts them
together.
-/

set_option autoImplicit false

namespace Spreadsheet

open Spreadsheet.Graph (SameLoop Alone)

/-! ## Passes -/

namespace Pass

open Workbook

variable {p q : Pass} {w : Workbook} {id x y z : CellId} {c : Cell} {f : Frame}
    {stack frames pushed : List Frame}
  {members : List CellId}

/-- The frames above the last one in which a cell was expanded. -/
def above (y : CellId) (stack : List Frame) : List Frame := stack.takeWhile (· ≠ ⟨y, true⟩)

theorem above_cons_self : above y (⟨y, true⟩ :: stack) = [] := by
  unfold above
  rw [List.takeWhile_cons_of_neg]
  simp

theorem above_cons_of_ne (h : f ≠ ⟨y, true⟩) : above y (f :: stack) = f :: above y stack := by
  unfold above
  rw [List.takeWhile_cons_of_pos]
  simpa using h

theorem above_append (unexpanded : ∀ f ∈ pushed, f.expanded = false) :
    above y (pushed ++ stack) = pushed ++ above y stack := by
  unfold above
  rw [List.takeWhile_append_of_pos]
  intro f hf
  rw [decide_eq_true_eq]
  rintro rfl
  cases unexpanded _ hf

/-- A frame of a cell that has still its part to do. -/
def Held (w : Workbook) (frames : List Frame) (z : CellId) : Prop :=
  (⟨z, false⟩ ∈ frames ∧ w.state? z = some .dirty) ∨
    (⟨z, true⟩ ∈ frames ∧ w.state? z = some .evaluating)

/-- What is held goes on being so while the cell is not settled and the frames are still there. -/
theorem Held.of_kept {w' : Workbook} {frames' : List Frame} (held : Held w frames z)
    (kept : Kept w w' z) (sub : ∀ b, ⟨z, b⟩ ∈ frames → ⟨z, b⟩ ∈ frames') : Held w' frames' z := by
  rcases held with ⟨mem, dirty⟩ | ⟨mem, evaluating⟩
  · exact .inl ⟨sub _ mem, kept.state?_of_unsettled CellState.not_settled_dirty dirty⟩
  · exact .inr ⟨sub _ mem, kept.state?_of_unsettled CellState.not_settled_evaluating evaluating⟩

/-- Above the last frame of a cell there is one of the next cell on the loop. -/
def Guards (w : Workbook) (x : CellId) (stack : List Frame) (y : CellId) : Prop :=
  ∃ z, w.Reads y z ∧ SameLoop w.Reads x z ∧ Held w (above y stack) z

/-- The cells on a loop are surfaced, and those being evaluated are guarded. -/
structure Guarded (x : CellId) (p : Pass) : Prop where
  surfaces : p.book.Surfaces x
  guards (y : CellId) : SameLoop p.book.Reads x y → p.book.state? y = some .evaluating →
  Guards p.book x p.stack y

theorem Held.not_top (held : Held w (above y (⟨y, true⟩ :: stack)) z) : False := by
  rw [above_cons_self] at held
  rcases held with ⟨mem, -⟩ | ⟨mem, -⟩ <;> cases mem

theorem Guards.not_top (guards : Guards w x (⟨y, true⟩ :: stack) y) : False := by
  obtain ⟨z, -, -, held⟩ := guards
  exact held.not_top

/-! ### What the operations of a pass keep -/

theorem kept_beginEvaluation (hc : w.cell? id = some c) (hy : y ≠ id) :
    Kept w (w.beginEvaluation id) y :=
  .inl (by rw [cell?_beginEvaluation hc, if_neg hy])

theorem kept_evaluateCell (hc : w.cell? id = some c) (hy : y ≠ id) :
    Kept w (w.evaluateCell id) y := by
  obtain ⟨s, -, -, cell, marked, -⟩ := evaluateCell_spec hc
  have same : s.cell? y = w.cell? y := by rw [cell, if_neg hy]
  have kept := marked.kept y
  unfold Kept at kept ⊢
  rwa [same] at kept

theorem kept_settleLoop (hy : y ∉ members) : Kept w (w.settleLoop members) y := by
  obtain ⟨s, -, -, cell, marked, -⟩ := settleLoop_spec members w
  have same : s.cell? y = w.cell? y := by rw [cell, if_neg hy]
  have kept := marked.kept y
  unfold Kept at kept ⊢
  rwa [same] at kept

theorem cell?_settleLoop_of_mem (hy : y ∈ members) :
    (w.settleLoop members).cell? y = (w.cell? y).map cyclicCell := by
  obtain ⟨s, -, -, cell, -, -, members_⟩ := settleLoop_spec members w
  rw [members_ y hy, cell, if_pos hy]

/-- A frame that is taken off the stack holds nothing if it had nothing left to do. -/
theorem Held.of_drop (held : Held w (above y (f :: stack)) z) (hf : f ≠ ⟨y, true⟩)
    (idle : w.state? f.cell ≠ some (if f.expanded then .evaluating else .dirty)) :
    Held w (above y stack) z := by
  rw [above_cons_of_ne hf] at held
  rcases held with ⟨mem, dirty⟩ | ⟨mem, evaluating⟩
  · rcases List.mem_cons.1 mem with rfl | mem
    · exact absurd dirty idle
    · exact .inl ⟨mem, dirty⟩
  · rcases List.mem_cons.1 mem with rfl | mem
    · exact absurd evaluating idle
    · exact .inr ⟨mem, evaluating⟩

/-- Expanding a cell leaves the others held, itself by its new frame. -/
theorem Held.of_expand (held : Held w (above y (⟨id, false⟩ :: stack)) z) (hc : w.cell? id = some c)
    (unexpanded : ∀ f ∈ pushed, f.expanded = false) (hy : y ≠ id) :
    Held (w.beginEvaluation id) (above y (pushed ++ ⟨id, true⟩ :: stack)) z := by
  rw [above_cons_of_ne (by simp)] at held
  rw [above_append unexpanded, above_cons_of_ne fun h => hy (Frame.mk.inj h).1.symm]
  by_cases hz : z = id
  · subst hz
    refine .inr ⟨by simp, ?_⟩
    rw [state?_beginEvaluation hc, if_pos rfl]
  · refine held.of_kept (kept_beginEvaluation hc hz) fun b mem => ?_
    rcases List.mem_cons.1 mem with same | mem
    · exact absurd (Frame.mk.inj same).1 hz
    · exact List.mem_append_right _ (List.mem_cons_of_mem _ mem)

theorem Held.of_evaluate (held : Held w (above y (⟨id, true⟩ :: stack)) z)
    (hc : w.cell? id = some c) (hy : y ≠ id) (hz : z ≠ id) :
    Held (w.evaluateCell id) (above y stack) z := by
  rw [above_cons_of_ne fun h => hy (Frame.mk.inj h).1.symm] at held
  refine held.of_kept (kept_evaluateCell hc hz) fun b mem => ?_
  rcases List.mem_cons.1 mem with same | mem
  · exact absurd (Frame.mk.inj same).1 hz
  · exact mem

theorem Guards.of_drop (guards : Guards w x (f :: stack) y) (hf : f ≠ ⟨y, true⟩)
    (idle : w.state? f.cell ≠ some (if f.expanded then .evaluating else .dirty)) :
    Guards w x stack y := by
  obtain ⟨z, reads, on, held⟩ := guards
  exact ⟨z, reads, on, held.of_drop hf idle⟩

theorem Guards.of_expand (hc : w.cell? id = some c) (unexpanded : ∀ f ∈ pushed, f.expanded = false)
    (hy : y ≠ id) (guards : Guards w x (⟨id, false⟩ :: stack) y) :
    Guards (w.beginEvaluation id) x (pushed ++ ⟨id, true⟩ :: stack) y := by
  obtain ⟨z, reads, on, held⟩ := guards
  have text := sameText_beginEvaluation hc
  exact ⟨z, by rwa [text.reads], by rwa [text.reads], held.of_expand hc unexpanded hy⟩

theorem Guards.of_kept {w' : Workbook} (guards : Guards w x stack y) (text : SameText w w')
    (kept : ∀ z, SameLoop w.Reads x z → Kept w w' z) : Guards w' x stack y := by
  obtain ⟨z, reads, on, held⟩ := guards
  exact ⟨z, by rwa [text.reads], by rwa [text.reads], held.of_kept (kept z on) fun _ mem => mem⟩

theorem surfaces_beginEvaluation (hc : w.cell? id = some c) (surfaces : w.Surfaces x) :
    (w.beginEvaluation id).Surfaces x := by
  intro y hy
  rw [(sameText_beginEvaluation hc).reads] at hy
  by_cases h : y = id
  · intro c' hc' settled
    rw [cell?_beginEvaluation hc, if_pos h] at hc'
    cases hc'
    exact absurd settled CellState.not_settled_evaluating
  · exact (kept_beginEvaluation hc h).surfaced (surfaces y hy)

/-- A cell on the loop that is expanded finds the next one waiting, or else a loop would have
shown. -/
theorem guards_of_expand_self (hc : w.cell? id = some c) (surfaces : w.Surfaces x)
    (on : SameLoop w.Reads x id) (unexpanded : ∀ f ∈ pushed, f.expanded = false)
    (all : ∀ d, w.Reads id d → Unremarkable (w.beginEvaluation id) id d ∧
      ((w.beginEvaluation id).state? d = some .dirty → ⟨d, false⟩ ∈ pushed)) :
    Guards (w.beginEvaluation id) x (pushed ++ ⟨id, true⟩ :: stack) id := by
  have text := sameText_beginEvaluation hc
  -- The next cell on the loop is written, as it reads something, and it is not settled, or is as
  -- a loop.
  obtain ⟨z, reads, hz⟩ := on.exists_next
  obtain ⟨unremarkable, stacked⟩ := all z reads
  have surfaced : (w.beginEvaluation id).Surfaced z :=
    surfaces_beginEvaluation hc surfaces z (by rwa [text.reads])
  obtain ⟨d, further, -⟩ := hz.exists_next
  rw [← text.reads] at further
  obtain ⟨c', hc'⟩ := Reads.cell? further
  have hs : (w.beginEvaluation id).state? z = some c'.state := state?_eq_some.2 ⟨c', hc', rfl⟩
  refine ⟨z, by rwa [text.reads], by rwa [text.reads], .inl ?_⟩
  rw [above_append unexpanded, above_cons_self, List.append_nil]
  by_cases settled : c'.state.Settled
  · -- It would be settled on the error of a loop, and the search would have found one through `id`.
    exfalso
    obtain ⟨value, state⟩ := surfaced c' hc' settled
    have cyclic : (w.beginEvaluation id).isCyclic z = true := by
      unfold isCyclic
      rw [settledValue_of_cell? hc', value]
    have none := unremarkable.2 (by rw [hs, state]) cyclic
    have found : ((w.beginEvaluation id).loop? id).isSome = true := by
      rw [loop?_isSome_iff]
      unfold OnLoop
      rw [text.reads]
      exact on.right.1
    rw [none] at found
    cases found
  · rcases CellState.not_settled_iff.1 settled with dirty | evaluating
    · rw [dirty] at hs
      exact ⟨stacked hs, hs⟩
    · rw [evaluating] at hs
      exact absurd hs unremarkable.1

/-! ### Steps -/

/-- A cell on the loop is guarded, and so not the one evaluated; what guards it is not settled
either. -/
theorem guarded_evaluateCell (state : w.state? id = some .evaluating)
    (guarded : Guarded x ⟨w, ⟨id, true⟩ :: stack⟩) :
    Guarded x ⟨w.evaluateCell id, stack⟩ := by
  obtain ⟨c, hc, -⟩ := state?_eq_some.1 state
  have text := sameText_evaluateCell hc
  have other : ∀ {u}, SameLoop w.Reads x u → u ≠ id := by
    rintro u hu rfl
    exact (guarded.guards u hu state).not_top
  have kept : ∀ z, SameLoop w.Reads x z → Kept w (w.evaluateCell id) z :=
    fun z hz => kept_evaluateCell hc (other hz)
  refine ⟨fun y hy => ?_, fun y hy evaluating => ?_⟩
  · rw [text.reads] at hy
    exact (kept y hy).surfaced (guarded.surfaces y hy)
  · rw [text.reads] at hy
    obtain ⟨z, reads, hz, held⟩ := guarded.guards y hy ((kept y hy).state?_evaluating evaluating)
    exact ⟨z, by rwa [text.reads], by rwa [text.reads], held.of_evaluate hc (other hy) (other hz)⟩

/-- A loop that is alone is settled as a whole, if any cell on it is. -/
theorem cell?_settleLoop_of_alone {start m : CellId} (alone : Alone w.Reads x)
    (found : Graph.IsLoop w.Reads start members) (hm : m ∈ members) (on : SameLoop w.Reads x m)
    (hy : SameLoop w.Reads x y) (hc : (w.settleLoop members).cell? y = some c) :
    c.value = .error .cycle ∧ c.state = .error := by
  rw [cell?_settleLoop_of_mem (alone.mem_of_isLoop found hm on hy), Option.map_eq_some_iff] at hc
  obtain ⟨c', -, rfl⟩ := hc
  exact ⟨rfl, rfl⟩

/-- Every step keeps a loop guarded that is alone. -/
theorem Stepped.guarded (h : Stepped p q) (invariant : p.Invariant) (alone : Alone p.book.Reads x)
    (guarded : p.Guarded x) : q.Guarded x := by
  have text := h.sameText
  cases h with
  | @fetch w id rest pending =>
    exact ⟨guarded.surfaces, fun y _ state => by cases invariant.tracked.evaluating y state⟩
  -- A cell of the loop that is evaluated would have the next one above it; so it is another cell.
  | evaluate state => exact guarded_evaluateCell state guarded
  -- What is dropped has nothing to do, and so it is not the frame that guards.
  | @drop w f stack idle =>
    refine ⟨guarded.surfaces, fun y hy evaluating => ?_⟩
    have guards := guarded.guards y hy evaluating
    refine guards.of_drop ?_ idle
    rintro rfl
    exact guards.not_top
  | @expand w id stack pushed state pushes all =>
    obtain ⟨c, hc, -⟩ := state?_eq_some.1 state
    have unexpanded : ∀ f ∈ pushed, f.expanded = false := fun f hf => (pushes f hf).1
    refine ⟨surfaces_beginEvaluation hc guarded.surfaces, fun y hy evaluating => ?_⟩
    rw [text.reads] at hy
    by_cases h : y = id
    · subst h
      exact guards_of_expand_self hc guarded.surfaces hy unexpanded all
    · have before := guarded.guards y hy ((kept_beginEvaluation hc h).state?_evaluating evaluating)
      exact before.of_expand hc unexpanded h
  | @close w id stack pushed members state pushes loop =>
    obtain ⟨c, hc, -⟩ := state?_eq_some.1 state
    have begun := sameText_beginEvaluation hc
    have unexpanded : ∀ f ∈ pushed, f.expanded = false := fun f hf => (pushes f hf).1
    obtain ⟨start, found, mem⟩ := isLoop_of_close hc invariant.tracked loop
    rw [← begun.reads] at found alone
    -- Either the loop is settled as a whole, or it has nothing to do with the one that is.
    by_cases touched : ∃ m ∈ members, SameLoop (w.beginEvaluation id).Reads x m
    · obtain ⟨m, hm, on⟩ := touched
      refine ⟨fun y hy c' hc' _ => ?_, fun y hy evaluating => ?_⟩
      · rw [text.reads, ← begun.reads] at hy
        exact cell?_settleLoop_of_alone alone found hm on hy hc'
      · rw [text.reads, ← begun.reads] at hy
        obtain ⟨c', hc', evaluating⟩ := state?_eq_some.1 evaluating
        rw [(cell?_settleLoop_of_alone alone found hm on hy hc').2] at evaluating
        cases evaluating
    · have out : ∀ {z}, SameLoop (w.beginEvaluation id).Reads x z → z ∉ members :=
        fun hz hm => touched ⟨_, hm, hz⟩
      have kept : ∀ z, SameLoop (w.beginEvaluation id).Reads x z →
          Kept (w.beginEvaluation id) ((w.beginEvaluation id).settleLoop members) z :=
          fun z hz => kept_settleLoop (out hz)
      refine ⟨fun y hy => ?_, fun y hy evaluating => ?_⟩
      · rw [text.reads, ← begun.reads] at hy
        exact (kept y hy).surfaced (surfaces_beginEvaluation hc guarded.surfaces y hy)
      · rw [text.reads, ← begun.reads] at hy
        have other : y ≠ id := by
          rintro rfl
          exact out hy mem
        have evaluating := (kept_beginEvaluation hc other).state?_evaluating
          ((kept y hy).state?_evaluating evaluating)
        rw [begun.reads] at hy
        have expanded := (guarded.guards y hy evaluating).of_expand hc unexpanded other
        exact expanded.of_kept (sameText_settleLoop members _) kept

end Pass

/-! ## Runs -/

namespace Workbook

variable {w w' : Workbook} {x : CellId}

theorem Surfaces.drain (h : w.Surfaces x) (coherent : w.Coherent) (alone : Alone w.Reads x)
    {steps : Nat} (drained : w.drain steps = some w') : w'.Surfaces x := by
  let I : Pass → Prop := fun p => p.Invariant ∧ Alone p.book.Reads x ∧ p.Guarded x
  have keeps : ∀ {p q}, Pass.Stepped p q → I p → I q := by
    intro p q step ⟨invariant, alone, guarded⟩
    refine ⟨step.invariant invariant, ?_, step.guarded invariant alone guarded⟩
    rw [step.sameText.reads]
    exact alone
  have initial : I ⟨w, []⟩ := by
    refine ⟨coherent.invariant, alone, h, fun y _ evaluating => ?_⟩
    cases coherent.invariant.tracked.evaluating y evaluating
  exact (Pass.run_keeps keeps drained initial).1.2.2.surfaces

theorem Operation.surfaces (operation : Operation w w') (coherent : w.Coherent)
    (alone : Alone w'.Reads x) (h : w.Surfaces x) : w'.Surfaces x := by
  cases operation with
  | write id raw => exact h.writeCell coherent.wired alone
  | clear id => exact h.clearCell coherent.wired id
  | addSheet added => exact h.addSheet coherent added alone
  | addFunction f order => exact h.addFunction coherent f order alone
  | drain drained =>
    rw [(coherent.drain drained).2.2.reads] at alone
    exact h.drain coherent alone drained
  | recalculate done =>
    have marked := (marked_foldl_markDirty w.volatileCells w).1
    have coherent' := coherent.of_marked marked
    rw [(coherent'.drain done).2.2.reads] at alone
    exact (marked.surfaces h).drain coherent' alone done
  -- A preview settles the cells like a pass, and then only the count of calls is another.
  | preview previewed =>
    obtain ⟨w₁, calls, drained, rfl⟩ := drain_of_preview previewed
    have alone₁ : Alone w₁.Reads x := alone
    rw [(coherent.drain drained).2.2.reads] at alone₁
    have surfaces : w₁.Surfaces x := h.drain coherent alone₁ drained
    exact surfaces
  | clock now => exact h

theorem ReachableWithin.surfaces (reachable : w.ReachableWithin fun v => Alone v.Reads x) :
    w.Surfaces x := by
  induction reachable with
  | create settings now seed engine =>
    intro y hy
    obtain ⟨d, reads, -⟩ := hy.right.exists_next
    exact absurd reads not_reads_create
  | operation reachable operation alone ih => exact operation.surfaces reachable.coherent alone ih

/-- **A loop that is alone surfaces.** If the loop that a cell is on, whenever it was on one,
never shared a cell with another loop, then after every pass the cell holds the error of a loop if
it is on one. -/
theorem loops_surface (reachable : w.ReachableWithin fun v => Alone v.Reads x) {steps : Nat}
    (drained : w.drain steps = some w') (found : (w'.loop? x).isSome = true) :
    ∃ c, w'.cell? x = some c ∧ c.value = .error .cycle ∧ c.state = .error := by
  obtain ⟨-, settled, text⟩ := reachable.coherent.drain drained
  have loop : w'.OnLoop x := loop?_isSome_iff.1 found
  have alone : Alone w.Reads x := by
    cases reachable with
    | create settings now seed engine =>
      exact .of_unique (fun y z _ reads => absurd reads not_reads_create) x
    | operation _ _ alone => exact alone
  have surfaces := reachable.surfaces.drain reachable.coherent alone drained
  obtain ⟨d, reads, -⟩ := Relation.TransGen.head'_iff.1 loop
  obtain ⟨c, hc⟩ := Reads.cell? reads
  exact ⟨c, hc, surfaces x ⟨loop, loop⟩ c hc (settled x c hc)⟩

/-- Where no cell reads two, loops are alone. -/
theorem alone_of_single (single : ∀ y ∈ w.readers.toList, (w.precedentsOf y).toList.length ≤ 1)
    (x : CellId) :
    Alone w.Reads x := by
  refine .of_unique (fun y z z' hz hz' => ?_) x
  have bound := single y (Std.ExtTreeSet.mem_toList.2 (mem_readers.2 ⟨z, hz⟩))
  have hz : z ∈ (w.precedentsOf y).toList := Std.ExtTreeSet.mem_toList.2 hz
  have hz' : z' ∈ (w.precedentsOf y).toList := Std.ExtTreeSet.mem_toList.2 hz'
  obtain ⟨d, eq⟩ := List.length_eq_one_iff.1 (Nat.le_antisymm bound (List.length_pos_of_mem hz))
  rw [eq] at hz hz'
  exact (List.mem_singleton.1 hz).trans (List.mem_singleton.1 hz').symm

/-- Two cells that read each other, one of which catches errors. -/
theorem loops_surface_of_pair :
    ∃ w w' : Workbook, w.ReachableWithin (fun v => Alone v.Reads ⟨0, ⟨0, 1⟩⟩) ∧
      w.drain 60 = some w' ∧
      (w'.loop? ⟨0, ⟨0, 1⟩⟩).isSome = true ∧
      ∃ c, w'.cell? ⟨0, ⟨0, 1⟩⟩ = some c ∧ c.value = .error .cycle ∧ c.state = .error := by
  let w₁ := (create Settings.default ⟨⟨2000, 1, 1⟩, 0⟩ 0).writeCell ⟨0, ⟨0, 0⟩⟩ "=B1"
  let w := w₁.writeCell ⟨0, ⟨0, 1⟩⟩ "=IFERROR(A1,1)"
  let w' := (w.drain 60).get (by decide +kernel)
  have drained : w.drain 60 = some w' := (Option.some_get _).symm
  have found : (w'.loop? ⟨0, ⟨0, 1⟩⟩).isSome = true := by decide +kernel
  have reachable : w.ReachableWithin fun v => Alone v.Reads ⟨0, ⟨0, 1⟩⟩ := by
    refine .operation (w := w₁) ?_ (.write _ _) (alone_of_single (by decide +kernel) _)
    exact .operation (.create _ _ _ _) (.write _ _) (alone_of_single (by decide +kernel) _)
  exact ⟨w, w', reachable, drained, found, loops_surface reachable drained found⟩

/-- Where loops share cells, a cell on one can be settled on an ordinary value. Here a write
closes two loops, one through the second cell and one through the other two; the first is settled
when the cell written comes up, and a cell on the second makes an ordinary value of the error. -/
theorem loops_need_not_surface :
    ∃ (w w' : Workbook) (x : CellId) (c : Cell), w.Reachable ∧ w.drain 60 = some w' ∧
      (w'.loop? x).isSome = true ∧
      w'.cell? x = some c ∧ c.state = .clean ∧ c.value ≠ .error .cycle := by
  let w₁ :=
    (((create Settings.default ⟨⟨2000, 1, 1⟩, 0⟩ 0).writeCell ⟨0, ⟨0, 0⟩⟩ "5").writeCell ⟨0, ⟨0, 2⟩⟩
    "=IFERROR(A1,5)").writeCell ⟨0, ⟨0, 3⟩⟩ "=C1"
  let w₂ := (w₁.drain 60).get (by decide +kernel)
  let w := (w₂.writeCell ⟨0, ⟨0, 1⟩⟩ "=A1").writeCell ⟨0, ⟨0, 0⟩⟩ "=B1+D1"
  let w' := (w.drain 60).get (by decide +kernel)
  have drained : w₁.drain 60 = some w₂ := (Option.some_get _).symm
  have reachable₁ : w₁.Reachable := (((reachable_create _ _ _ _).write _ _).write _ _).write _ _
  have reachable : w.Reachable := ((reachable₁.drain drained).write _ _).write _ _
  -- The third cell lies on a loop and is settled on the number that it makes of the error.
  have shown : (w'.loop? ⟨0, ⟨0, 2⟩⟩).isSome = true ∧ w'.state? ⟨0, ⟨0, 2⟩⟩ = some .clean ∧
      w'.isCyclic ⟨0, ⟨0, 2⟩⟩ = false := by decide +kernel
  obtain ⟨found, state, ordinary⟩ := shown
  obtain ⟨c, hc, clean⟩ := state?_eq_some.1 state
  refine ⟨w, w', ⟨0, ⟨0, 2⟩⟩, c, reachable, (Option.some_get _).symm, found, hc, clean,
    fun cyclic => ?_⟩
  unfold isCyclic at ordinary
  rw [settledValue_of_cell? hc, cyclic] at ordinary
  cases ordinary

end Workbook

end Spreadsheet
