import Mathlib.Algebra.Order.BigOperators.Group.Finset
import Mathlib.Data.Prod.Lex
import Spreadsheet.Proofs.Recalculation.Surfacing

/-!
# `Proofs/Recalculation/Termination.lean` — if no cell lies on two loops, a pass comes to an end

A cell can be evaluated many times in one pass: early on from old values of the cells it reads,
and again after each of these has changed. Each time it settles, and at worst every cell that
reads it has to be settled anew. So cells are given weights such that one weighs more than all the
cells together that are ranked above it (`exists_weight`), and what a pass brings down is

* the weight of the cells that are not settled, by every evaluation and by every loop that is
  settled;
* with that unchanged, the number of cells that wait, by every expansion;
* with that unchanged, twice the length of the queue and the height of the stack, by every other
  step.

Readers are ranked above what they read, but for the cells of a loop, which are all of one rank.
That is enough where loops are *separate*: their cells are never evaluated, being guarded
(`Stepped.guarded`), and when a loop is settled all of its cells are, so that none is left that
could be unsettled by another. Where two loops share a cell, each can unsettle the other, and a
pass need not end.

Nothing is asked of the functions that are called: with changing values a pass still ends.
-/

set_option autoImplicit false

namespace Spreadsheet

open Spreadsheet.Graph (SameLoop Alone)

namespace Workbook

variable {w w' : Workbook} {id x y m : CellId} {cells : Finset CellId} {weight : CellId → Nat}
    {members : List CellId}

/-! ## Separate loops -/

/-- No cell lies on two loops: from any cell on a loop, there is one way only to go on along it. -/
def Separate (w : Workbook) : Prop := ∀ x, Alone w.Reads x

theorem Separate.of_sameText (text : SameText w w') (separate : w.Separate) : w'.Separate := by
  unfold Separate
  rw [text.reads]
  exact separate

theorem Acyclic.separate (acyclic : w.Acyclic) : w.Separate :=
  fun _ _ _ _ on _ _ _ _ => absurd on.right.1 (acyclic _)

theorem Acyclic.surfaces (acyclic : w.Acyclic) (x : CellId) : w.Surfaces x :=
  fun _ on => absurd on.right.1 (acyclic _)

theorem separate_create (settings : Settings) (now : Moment) (seed : Nat) (engine : Regex.Engine) :
    (create settings now seed engine).Separate :=
  Alone.of_unique fun _ _ _ reads => absurd reads not_reads_create

theorem rank_eq_of_sameLoop (on : SameLoop w.Reads x y) : w.rank x = w.rank y :=
  Nat.le_antisymm (rank_le_of_path on.2.to_reflTransGen) (rank_le_of_path on.1.to_reflTransGen)

/-- A cell that reads one of a loop from outside is ranked above the loop. -/
theorem rank_lt_of_outside (on : SameLoop w.Reads id m) (reads : w.Reads x m)
    (out : ¬ SameLoop w.Reads id x) :
    w.rank id < w.rank x := by
  rw [rank_eq_of_sameLoop on]
  refine rank_lt_of_no_way_back reads fun back => out ?_
  exact ⟨on.1.trans_left back, .head reads on.2⟩

/-! ## Weights -/

/-- A cell weighs more than all the cells together that are ranked above it. -/
def Outweighs (w : Workbook) (cells : Finset CellId) (weight : CellId → Nat) : Prop :=
  ∀ (id : CellId) (above : Finset CellId), above ⊆ cells → (∀ x ∈ above, w.rank id < w.rank x) →
    ∑ x ∈ above, weight x < weight id

/-- There are such weights: a power for every rank, with a base that exceeds the number of cells. -/
theorem exists_weight (w : Workbook) (cells : Finset CellId) :
    ∃ weight, w.Outweighs cells weight := by
  let bound := w.readers.toList.toFinset.card
  let base := cells.card + 1
  refine ⟨fun x => base ^ (bound - w.rank x), fun id above sub higher => ?_⟩
  rcases Finset.eq_empty_or_nonempty above with rfl | ⟨r, hr⟩
  · rw [Finset.sum_empty]
    exact Nat.pow_pos (Nat.succ_pos _)
  · have below : w.rank id < bound := (higher r hr).trans_le (w.rank_le r)
    have each : ∀ x ∈ above, base ^ (bound - w.rank x) ≤ base ^ (bound - w.rank id - 1) := by
      intro x hx
      have higher := higher x hx
      exact Nat.pow_le_pow_right (Nat.succ_pos _) (by omega)
    calc ∑ x ∈ above, base ^ (bound - w.rank x)
        ≤ above.card * base ^ (bound - w.rank id - 1) := Finset.sum_le_card_nsmul _ _ _ each
      _ ≤ cells.card * base ^ (bound - w.rank id - 1) :=
        Nat.mul_le_mul_right _ (Finset.card_le_card sub)
      _ < base * base ^ (bound - w.rank id - 1) :=
        Nat.mul_lt_mul_of_pos_right (Nat.lt_succ_self _) (Nat.pow_pos (Nat.succ_pos _))
      _ = base ^ (bound - w.rank id) := by
        rw [← Nat.pow_succ', show (bound - w.rank id - 1).succ = bound - w.rank id by omega]

/-! ## What is left to do -/

open Classical in
/-- Those of some cells that are not settled. -/
noncomputable def unsettled (w : Workbook) (cells : Finset CellId) : Finset CellId :=
  cells.filter fun x => ∃ c, w.cell? x = some c ∧ ¬ c.state.Settled

/-- Those of some cells that wait. -/
def waiting (w : Workbook) (cells : Finset CellId) : Finset CellId :=
  cells.filter fun x => w.state? x = some .dirty

theorem mem_unsettled :
    x ∈ w.unsettled cells ↔ x ∈ cells ∧ ∃ c, w.cell? x = some c ∧ ¬ c.state.Settled := by
  classical
  exact Finset.mem_filter

/-- Some cells that take in all that were written. -/
def Covers (cells : Finset CellId) (w : Workbook) : Prop := ∀ x c, w.cell? x = some c → x ∈ cells

theorem exists_covers (w : Workbook) : ∃ cells, Covers cells w := by
  refine ⟨(w.slots.toList.map Prod.fst).toFinset, fun x c hc => ?_⟩
  rw [List.mem_toFinset, List.mem_map]
  exact ⟨(x, .live c), live_mem_toList.2 hc, rfl⟩

theorem Covers.of_sameText (text : SameText w w') (covers : Covers cells w) : Covers cells w' := by
  intro x c hc
  obtain ⟨c', hc', -⟩ := text.symm.cell? hc
  exact covers x c' hc'

theorem Covers.mem_unsettled (covers : Covers cells w) {s : CellState} (unsettled : ¬ s.Settled)
    (state : w.state? id = some s) :
    id ∈ w.unsettled cells := by
  obtain ⟨c, hc, rfl⟩ := state?_eq_some.1 state
  exact Workbook.mem_unsettled.2 ⟨covers id c hc, c, hc, unsettled⟩

/-- Settling a cell lowers the weight of the cells that are not settled, whatever cells of higher
rank are unsettled by that. -/
theorem weight_lt (outweighs : w.Outweighs cells weight) (before : id ∈ w.unsettled cells)
    (after : id ∉ w'.unsettled cells)
    (others : ∀ x ∈ w'.unsettled cells, x ∈ w.unsettled cells ∨ w.rank id < w.rank x) :
    ∑ x ∈ w'.unsettled cells, weight x < ∑ x ∈ w.unsettled cells, weight x := by
  classical
  let above := cells.filter fun x => w.rank id < w.rank x
  have sub : w'.unsettled cells ⊆ (w.unsettled cells).erase id ∪ above := by
    intro x hx
    rw [Finset.mem_union, Finset.mem_erase]
    rcases others x hx with was | higher
    · exact .inl ⟨fun same => after (same ▸ hx), was⟩
    · exact .inr (Finset.mem_filter.2 ⟨(mem_unsettled.1 hx).1, higher⟩)
  have lighter : ∑ x ∈ above, weight x < weight id :=
    outweighs id above (Finset.filter_subset _ _) fun x hx => (Finset.mem_filter.1 hx).2
  calc ∑ x ∈ w'.unsettled cells, weight x
      ≤ ∑ x ∈ (w.unsettled cells).erase id ∪ above, weight x := Finset.sum_le_sum_of_subset sub
    _ ≤ ∑ x ∈ (w.unsettled cells).erase id, weight x + ∑ x ∈ above, weight x := by
        rw [← Finset.sum_union_inter]
        exact Nat.le_add_right _ _
    _ < ∑ x ∈ (w.unsettled cells).erase id, weight x + weight id := Nat.add_lt_add_left lighter _
    _ = ∑ x ∈ w.unsettled cells, weight x := Finset.sum_erase_add _ _ before

/-- An evaluation off the loops settles one cell, and unsettles readers of that one at most. -/
theorem weight_evaluateCell (wired : w.Wired) (covers : Covers cells w)
    (outweighs : w.Outweighs cells weight) (off : ¬ w.OnLoop id)
    (state : w.state? id = some .evaluating) :
    ∑ x ∈ (w.evaluateCell id).unsettled cells, weight x < ∑ x ∈ w.unsettled cells, weight x := by
  have before := covers.mem_unsettled CellState.not_settled_evaluating state
  obtain ⟨c, hc, -⟩ := state?_eq_some.1 state
  obtain ⟨s, -, -, cell, -, others, -⟩ := evaluateCell_spec hc
  refine weight_lt outweighs before (fun after => ?_) fun x hx => ?_
  · have none : id ∉ w.dependentsOf id := wired.not_mem_dependentsOf_self off
    obtain ⟨c₁, hc₁, settled⟩ := isSettled_evaluateCell hc none
    obtain ⟨-, c₂, hc₂, open_⟩ := mem_unsettled.1 after
    rw [hc₁] at hc₂
    cases hc₂
    exact open_ settled
  · obtain ⟨hx, c', hc', open_⟩ := mem_unsettled.1 hx
    by_cases reader : x ∈ w.dependentsOf id
    · right
      have reads := (wired.mem_dependentsOf x id).1 reader
      exact rank_lt_of_no_way_back reads fun back => off (.tail' back reads)
    · left
      -- The record of what is no reader has not changed, unless it is the cell itself, which is
      -- settled.
      rw [others x reader, cell] at hc'
      split at hc'
      next same => exact same ▸ before
      next => exact mem_unsettled.2 ⟨hx, c', hc', open_⟩

/-- Settling a loop settles all its cells, and unsettles cells at most that read one of them from
outside. -/
theorem weight_settleLoop (wired : w.Wired) (outweighs : w.Outweighs cells weight) {start : CellId}
    (alone : Alone w.Reads id) (found : Graph.IsLoop w.Reads start members) (mem : id ∈ members)
    (before : id ∈ w.unsettled cells) :
    ∑ x ∈ (w.settleLoop members).unsettled cells, weight x < ∑ x ∈ w.unsettled cells, weight x := by
  have settled : ∀ x ∈ members, x ∉ (w.settleLoop members).unsettled cells := by
    intro x hx after
    obtain ⟨-, c, hc, open_⟩ := mem_unsettled.1 after
    rw [Pass.cell?_settleLoop_of_mem hx, Option.map_eq_some_iff] at hc
    obtain ⟨c', -, rfl⟩ := hc
    exact open_ CellState.settled_error
  have onLoop : ∀ m ∈ members, SameLoop w.Reads id m :=
    fun m hm => ⟨found.transGen mem hm, found.transGen hm mem⟩
  refine weight_lt outweighs before (settled id mem) fun x hx => ?_
  have out : x ∉ members := fun member => settled x member hx
  by_cases reader : ∃ m ∈ members, x ∈ w.dependentsOf m
  · right
    obtain ⟨m, hm, reader⟩ := reader
    refine rank_lt_of_outside (onLoop m hm) ((wired.mem_dependentsOf x m).1 reader) fun on => out ?_
    exact alone.mem_of_isLoop found mem (onLoop id mem) on
  · left
    obtain ⟨hx, c, hc, open_⟩ := mem_unsettled.1 hx
    rw [cell?_settleLoop_of_no_reader out fun m hm reads => reader ⟨m, hm, reads⟩] at hc
    exact mem_unsettled.2 ⟨hx, c, hc, open_⟩

/-- Beginning to evaluate a cell settles none and unsettles none, and leaves one less waiting. -/
theorem unsettled_beginEvaluation (covers : Covers cells w) (state : w.state? id = some .dirty) :
    (w.beginEvaluation id).unsettled cells = w.unsettled cells ∧
      ((w.beginEvaluation id).waiting cells).card < (w.waiting cells).card := by
  obtain ⟨c, hc, hs⟩ := state?_eq_some.1 state
  constructor
  · ext x
    rw [mem_unsettled, mem_unsettled, cell?_beginEvaluation hc]
    split
    next h =>
      subst h
      have before : ∃ c, w.cell? x = some c ∧ ¬ c.state.Settled :=
        ⟨c, hc, hs ▸ CellState.not_settled_dirty⟩
      have after : ∃ c', some { c with state := .evaluating } = some c' ∧ ¬ c'.state.Settled :=
        ⟨_, rfl, CellState.not_settled_evaluating⟩
      exact ⟨fun h => ⟨h.1, before⟩, fun h => ⟨h.1, after⟩⟩
    next => exact Iff.rfl
  · refine Finset.card_lt_card ⟨fun x hx => ?_, fun sub => ?_⟩
    · unfold waiting at hx ⊢
      rw [Finset.mem_filter, Pass.state?_beginEvaluation hc] at hx
      rw [Finset.mem_filter]
      split at hx
      · cases hx.2
      · exact hx
    · have mem : id ∈ w.waiting cells := Finset.mem_filter.2 ⟨covers id c hc, state⟩
      have after := (Finset.mem_filter.1 (sub mem)).2
      rw [Pass.state?_beginEvaluation hc, if_pos rfl] at after
      cases after

theorem Outweighs.of_sameText (text : SameText w w') (outweighs : w.Outweighs cells weight) :
    w'.Outweighs cells weight := by
  intro id above sub higher
  refine outweighs id above sub fun x hx => ?_
  rw [← rank_of_sameText text, ← rank_of_sameText text]
  exact higher x hx

end Workbook

/-! ## Passes -/

namespace Pass

open Workbook

variable {p q : Pass} {w : Workbook} {cells : Finset CellId} {weight : CellId → Nat}

/-- What a pass brings down. -/
noncomputable def measure (cells : Finset CellId) (weight : CellId → Nat) (p : Pass) :
    Nat ×ₗ Nat ×ₗ Nat :=
  toLex (∑ x ∈ p.book.unsettled cells, weight x,
    toLex ((p.book.waiting cells).card, 2 * p.book.pending.length + p.stack.length))

/-- What holds at every step of a pass that comes to an end. -/
structure Ending (cells : Finset CellId) (weight : CellId → Nat) (p : Pass) : Prop where
  invariant : p.Invariant
  separate : p.book.Separate
  guarded (x : CellId) : p.Guarded x
  covers : Covers cells p.book
  outweighs : p.book.Outweighs cells weight

theorem Stepped.ending (h : Stepped p q) (ending : p.Ending cells weight) :
    q.Ending cells weight where
  invariant := h.invariant ending.invariant
  separate := ending.separate.of_sameText h.sameText
  guarded x := h.guarded ending.invariant (ending.separate x) (ending.guarded x)
  covers := ending.covers.of_sameText h.sameText
  outweighs := ending.outweighs.of_sameText h.sameText

/-- Every step brings the measure down, if no cell lies on two loops. -/
theorem Stepped.decreases (h : Stepped p q) (ending : p.Ending cells weight) :
    measure cells weight q < measure cells weight p := by
  have wired := ending.invariant.wired
  cases h with
  | @fetch w id rest pending =>
    -- From the queue, where it counts twice, to the stack.
    refine Prod.Lex.right _ (Prod.Lex.right _ ?_)
    simp only [pending, List.length_cons, List.length_nil]
    omega
  | @evaluate w id stack state =>
    -- A cell on a loop would be guarded, and not on top.
    have off : ¬ w.OnLoop id :=
      fun loop => ((ending.guarded id).guards id ⟨loop, loop⟩ state).not_top
    exact Prod.Lex.left _ _ (weight_evaluateCell wired ending.covers ending.outweighs off state)
  | @drop w frame stack =>
    refine Prod.Lex.right _ (Prod.Lex.right _ ?_)
    simp only [List.length_cons]
    omega
  | @expand w id stack pushed state =>
    -- The stack may grow by any number of frames, but one cell less waits.
    obtain ⟨same, fewer⟩ := unsettled_beginEvaluation ending.covers state
    unfold measure
    rw [same]
    exact Prod.Lex.right _ (Prod.Lex.left _ _ fewer)
  | @close w id stack pushed members state pushes loop =>
    -- The loop is settled as a whole, and the cell just expanded with it.
    obtain ⟨c, hc, -⟩ := state?_eq_some.1 state
    obtain ⟨start, found, mem⟩ := isLoop_of_close hc ending.invariant.tracked loop
    have text := sameText_beginEvaluation hc
    have same := (unsettled_beginEvaluation ending.covers state).1
    have before : id ∈ (w.beginEvaluation id).unsettled cells :=
      same ▸ ending.covers.mem_unsettled CellState.not_settled_dirty state
    rw [← text.reads] at found
    have lighter := weight_settleLoop (wired.of_sameText text) (ending.outweighs.of_sameText text)
      (ending.separate.of_sameText text id) found mem before
    rw [same] at lighter
    exact Prod.Lex.left _ _ lighter

/-- A pass comes to an end, wherever it is. -/
theorem Ending.exists_run (ending : p.Ending cells weight) : ∃ steps w, run steps p = some w := by
  induction hm : measure cells weight p using WellFoundedLT.induction generalizing p with
  | _ m ih =>
    cases hs : p.step with
    | none =>
      refine ⟨1, p.book, ?_⟩
      rw [run, hs]
    | some q =>
      have stepped := stepped_of_step hs
      obtain ⟨steps, w, done⟩ := ih _ (hm ▸ stepped.decreases ending) (stepped.ending ending) rfl
      refine ⟨steps + 1, w, ?_⟩
      rw [run, hs]
      exact done

end Pass

namespace Workbook

variable {w : Workbook}

/-- A pass over a workbook with separate loops returns, if their cells are surfaced. -/
theorem Coherent.exists_drain_of_separate (coherent : w.Coherent) (separate : w.Separate)
    (surfaces : ∀ x, w.Surfaces x) :
    ∃ steps w', w.drain steps = some w' := by
  obtain ⟨cells, covers⟩ := exists_covers w
  obtain ⟨weight, outweighs⟩ := w.exists_weight cells
  have invariant := coherent.invariant
  refine Pass.Ending.exists_run ⟨invariant, separate,
    fun x => ⟨surfaces x, fun y _ evaluating => ?_⟩, covers, outweighs⟩
  cases invariant.tracked.evaluating y evaluating

theorem Coherent.exists_drain (coherent : w.Coherent) (acyclic : w.Acyclic) :
    ∃ steps w', w.drain steps = some w' :=
  coherent.exists_drain_of_separate acyclic.separate acyclic.surfaces

/-- So does one that recomputes the volatile cells as well. -/
theorem Coherent.exists_recalculate_of_separate (coherent : w.Coherent) (separate : w.Separate)
    (surfaces : ∀ x, w.Surfaces x) : ∃ steps w', w.recalculate steps = some w' := by
  have marked := (marked_foldl_markDirty w.volatileCells w).1
  exact (coherent.of_marked marked).exists_drain_of_separate (separate.of_sameText marked.text)
    fun x => marked.surfaces (surfaces x)

/-- The order in which cells wait means nothing to a coherent workbook. -/
theorem Coherent.of_queue (coherent : w.Coherent) {queue : List CellId}
    (all : ∀ x ∈ w.pending, x ∈ queue) :
    ({ w with pending := queue } : Workbook).Coherent := by
  refine ⟨coherent.wired.of_records rfl rfl, fun x c hc => ?_, fun x _ => ?_⟩
  · rcases coherent.waits x c hc with settled | ⟨dirty, pending⟩
    · exact .inl settled
    · exact .inr ⟨dirty, all x pending⟩
  · exact (coherent.sound x (by simp)).of_queue queue

/-- **Recalculation returns where loops are separate.** If no cell ever lay on two loops, then a
pass over what waits returns, and so does one that recomputes the volatile cells as well, and one
that finds the waiting cells in any other order. -/
theorem passes_return (reachable : w.ReachableWithin Separate) :
    (∃ steps w', w.drain steps = some w') ∧ (∃ steps w', w.recalculate steps = some w') ∧
      ∀ queue, (∀ x ∈ w.pending, x ∈ queue) →
        ∃ steps w', ({ w with pending := queue } : Workbook).drain steps = some w' := by
  have coherent := reachable.coherent
  have separate : w.Separate := reachable.within separate_create
  have surfaces : ∀ x, w.Surfaces x :=
    fun x => (reachable.mono fun _ separate => separate x).surfaces
  refine ⟨coherent.exists_drain_of_separate separate surfaces,
    coherent.exists_recalculate_of_separate separate surfaces, fun queue all => ?_⟩
  exact (coherent.of_queue all).exists_drain_of_separate separate surfaces

/-- Two cells that read each other, one of which catches errors, and a third that reads one of
them: the queue may have them in any order. -/
theorem passes_return_of_pair :
    ∃ w : Workbook, w.ReachableWithin Separate ∧ w.OnLoop ⟨0, ⟨0, 0⟩⟩ ∧
      w.Reads ⟨0, ⟨0, 2⟩⟩ ⟨0, ⟨0, 0⟩⟩ ∧
      (∃ steps w', w.drain steps = some w') ∧ (∃ steps w', w.recalculate steps = some w') ∧
      ∃ steps w', ({ w with pending := w.pending.reverse } : Workbook).drain steps = some w' := by
  let w₁ := (create Settings.default ⟨⟨2000, 1, 1⟩, 0⟩ 0).writeCell ⟨0, ⟨0, 0⟩⟩ "=B1"
  let w₂ := w₁.writeCell ⟨0, ⟨0, 1⟩⟩ "=IFERROR(A1,1)"
  let w := w₂.writeCell ⟨0, ⟨0, 2⟩⟩ "=A1+RAND()"
  have reachable : w.ReachableWithin Separate := by
    refine .operation (w := w₂) ?_ (.write _ _) (alone_of_single (by decide +kernel))
    refine .operation (w := w₁) ?_ (.write _ _) (alone_of_single (by decide +kernel))
    exact .operation (.create _ _ _ _) (.write _ _) (alone_of_single (by decide +kernel))
  obtain ⟨drains, recalculates, queues⟩ := passes_return reachable
  refine ⟨w, reachable, by decide +kernel, ?_, drains, recalculates,
    queues _ fun x hx => List.mem_reverse.2 hx⟩
  have listed : (w.precedentsOf ⟨0, ⟨0, 2⟩⟩).contains ⟨0, ⟨0, 0⟩⟩ = true := by decide +kernel
  exact listed

end Workbook

end Spreadsheet
