import Spreadsheet.Proofs.Recalculation.Surfacing

/-!
# `Proofs/Recalculation/Order.lean` — whether a cell is evaluated after what it reads

When a cell is expanded, those of the cells it reads that wait are stacked on top of it, and so
they are settled before it comes to the top again (`Stepped.requests`, `Stepped.held`). One that
is settled at that time is not looked at a second time. It may be out of date, if something waits
that it reads; when that is evaluated, it is queued, and the cell comes to be evaluated over the
old value of it after all.

This is the only way in which a cell comes before one that it reads (`precedents_settle_first`),
and it is a way that passes do go (`precedents_can_wait`). It is closed where nothing below the
cell is out of date (`CurrentBelow`): a step of a pass keeps it so.

All of this is about workbooks without loops. With a loop no order is right.
-/

set_option autoImplicit false

namespace Spreadsheet

open Relation (ReflTransGen TransGen)

namespace Workbook

/-- Recalculation is not through with a cell. -/
def IsOpen (w : Workbook) (id : CellId) : Prop := ∃ c, w.cell? id = some c ∧ ¬ c.state.Settled

/-- Of what a cell reads, directly or through others, nothing is settled that reads an open cell;
nor is the cell itself. -/
def CurrentBelow (w : Workbook) (id : CellId) : Prop :=
  ∀ x d, ReflTransGen w.Reads id x → w.Reads x d → w.IsSettled x → ¬ w.IsOpen d

variable {w : Workbook} {x d : CellId} {c : Cell} {s : CellState}

theorem isOpen_of_state? (unsettled : ¬ s.Settled) (hs : w.state? x = some s) : w.IsOpen x := by
  obtain ⟨c, hc, rfl⟩ := state?_eq_some.1 hs
  exact ⟨c, hc, unsettled⟩

theorem IsSettled.not_isOpen (settled : w.IsSettled x) : ¬ w.IsOpen x := by
  obtain ⟨c, hc, settled⟩ := settled
  rintro ⟨c', hc', unsettled⟩
  rw [hc] at hc'
  cases hc'
  exact unsettled settled

end Workbook

namespace Pass

open Workbook

variable {p q m : Pass} {w : Workbook} {r x y d : CellId} {f : Frame} {stack : List Frame}

/-! ## Moments of a pass -/

/-- A cell is expanded next. -/
def Expands (p : Pass) (id : CellId) : Prop :=
  p.stack.head? = some ⟨id, false⟩ ∧ p.book.state? id = some .dirty

/-- A cell is evaluated next. -/
def Evaluates (p : Pass) (id : CellId) : Prop :=
  p.stack.head? = some ⟨id, true⟩ ∧ p.book.state? id = some .evaluating

instance (p : Pass) (id : CellId) : Decidable (p.Expands id) := inferInstanceAs (Decidable (_ ∧ _))

instance (p : Pass) (id : CellId) : Decidable (p.Evaluates id) :=
  inferInstanceAs (Decidable (_ ∧ _))

/-- A moment of a pass comes before another one of the same pass, or is the same. -/
def Leads : Pass → Pass → Prop := ReflTransGen fun p q => p.step = some q

/-- Between two moments of a pass, a settled cell was queued, because something that it reads was
evaluated. -/
def Requeued (p q : Pass) (d : CellId) : Prop :=
  ∃ m m' e, p.Leads m ∧ m.Evaluates e ∧ m.book.Reads d e ∧ m.book.IsSettled d ∧
    m.step = some m' ∧ m'.book.state? d = some .dirty ∧ m'.Leads q

theorem Expands.isOpen (expands : p.Expands x) : p.book.IsOpen x :=
  isOpen_of_state? CellState.not_settled_dirty expands.2

theorem Evaluates.isOpen (evaluates : p.Evaluates x) : p.book.IsOpen x :=
  isOpen_of_state? CellState.not_settled_evaluating evaluates.2

theorem Requeued.step (requeued : Requeued p q d) {q' : Pass} (step : q.step = some q') :
    Requeued p q' d := by
  obtain ⟨m, m', e, before, evaluates, reads, settled, next, dirty, after⟩ := requeued
  exact ⟨m, m', e, before, evaluates, reads, settled, next, dirty, .tail after step⟩

theorem Leads.keeps {I : Pass → Prop} (keeps : ∀ {p q}, Stepped p q → I p → I q) (leads : p.Leads q)
    (h : I p) : I q := by
  induction leads with
  | refl => exact h
  | tail _ step ih => exact keeps (stepped_of_step step) ih

theorem Evaluates.not_held (evaluates : p.Evaluates y) (held : Held p.book (above y p.stack) d) :
    False := by
  obtain ⟨w, stack⟩ := p
  cases stack with
  | nil => cases evaluates.1
  | cons f stack =>
    cases evaluates.1
    exact held.not_top

/-! ## The stack without loops -/

/-- From an expanded cell, following what cells read leads to every cell above it. -/
theorem Threaded.transGen {R : CellId → CellId → Prop} (threaded : Threaded R (f :: stack))
    (mem : ⟨y, true⟩ ∈ stack) :
    TransGen R y f.cell := by
  induction stack generalizing f with
  | nil => cases mem
  | cons g stack ih =>
    obtain ⟨read, threaded⟩ := threaded
    cases hg : g.expanded with
    | true =>
      have last : R g.cell f.cell := read g (List.find?_cons_of_pos hg)
      rcases List.mem_cons.1 mem with rfl | mem
      · exact .single last
      · exact .tail (ih threaded mem) last
    | false =>
      -- A frame still to be expanded is no part of the thread.
      have skipped : (g :: stack).find? Frame.expanded = stack.find? Frame.expanded :=
        List.find?_cons_of_neg (by rw [hg]; exact Bool.false_ne_true)
      rw [skipped] at read
      rcases List.mem_cons.1 mem with rfl | mem
      · cases hg
      · exact ih ⟨read, threaded.2⟩ mem

/-- Of what the cell on top reads, directly or through others, nothing is being evaluated. -/
theorem Tracked.not_evaluating_below (tracked : p.Tracked) (acyclic : p.book.Acyclic)
    (top : p.stack.head? = some f) (below : TransGen p.book.Reads f.cell y) :
    p.book.state? y ≠ some .evaluating := by
  intro evaluating
  have mem := tracked.evaluating y evaluating
  have threaded := tracked.threaded
  obtain ⟨w, stack⟩ := p
  cases stack with
  | nil => cases top
  | cons g stack =>
    cases top
    rcases List.mem_cons.1 mem with rfl | mem
    · exact acyclic y below
    · exact acyclic y (TransGen.trans (threaded.transGen mem) below)

theorem not_loopShows {id : CellId} {members : List CellId} (acyclic : w.Acyclic)
    (state : w.state? id = some .dirty) (tracked : Tracked ⟨w, ⟨id, false⟩ :: stack⟩) :
    ¬ LoopShows (w.beginEvaluation id) id (⟨id, true⟩ :: stack)
    (w.precedentsOf id).toList members := by
  intro loop
  obtain ⟨c, hc, -⟩ := state?_eq_some.1 state
  obtain ⟨start, found, -⟩ := isLoop_of_close hc tracked loop
  exact acyclic start (found.transGen found.start_mem found.start_mem)

/-! ## Single cells, step by step -/

/-- What a step can do to a cell where there are no loops: nothing, expand it, evaluate it, or
queue it because something that it reads is evaluated. -/
theorem Stepped.cell_cases (h : Stepped p q) (invariant : p.Invariant) (acyclic : p.book.Acyclic)
    (x : CellId) :
    q.book.cell? x = p.book.cell? x ∨ (p.Expands x ∧ q.book.state? x = some .evaluating) ∨
      (p.Evaluates x ∧ q.book.IsSettled x) ∨
      ∃ e, p.Evaluates e ∧ p.book.Reads x e ∧ p.book.IsSettled x ∧
      q.book.state? x = some .dirty := by
  cases h with
  | fetch => exact .inl rfl
  | @evaluate w id stack state =>
    obtain ⟨c, hc, -⟩ := state?_eq_some.1 state
    obtain ⟨s, -, -, cell, marked, others, -⟩ := evaluateCell_spec hc
    by_cases hx : x = id
    · subst hx
      have none : x ∉ w.dependentsOf x := invariant.wired.not_mem_dependentsOf_self (acyclic x)
      exact .inr (.inr (.inl ⟨⟨rfl, state⟩, isSettled_evaluateCell hc none⟩))
    · have same : s.cell? x = w.cell? x := by rw [cell, if_neg hx]
      -- A reader is queued if the value is another one, and is left alone like all others if it
      -- is not.
      by_cases reads : x ∈ w.dependentsOf id
      · rcases marked.cell x with same' | ⟨c', hc', settled, queued, -⟩
        · exact .inl (same'.trans same)
        · refine .inr (.inr
            (.inr ⟨id, ⟨rfl, state⟩, (invariant.wired.mem_dependentsOf x id).1 reads, ?_, ?_⟩))
          · exact ⟨c', same ▸ hc', settled⟩
          · exact state?_eq_some.2 ⟨_, queued, rfl⟩
      · exact .inl ((others x reads).trans same)
  | drop => exact .inl rfl
  | @expand w id stack pushed state pushes all =>
    obtain ⟨c, hc, -⟩ := state?_eq_some.1 state
    by_cases hx : x = id
    · subst hx
      refine .inr (.inl ⟨⟨rfl, state⟩, ?_⟩)
      show (w.beginEvaluation x).state? x = _
      rw [state?_beginEvaluation hc, if_pos rfl]
    · refine .inl ?_
      show (w.beginEvaluation id).cell? x = _
      rw [cell?_beginEvaluation hc, if_neg hx]
  -- No loop is settled where there is none.
  | close state pushes loop => exact absurd loop (not_loopShows acyclic state invariant.tracked)

theorem Stepped.evaluating_cases (h : Stepped p q) (invariant : p.Invariant)
    (acyclic : p.book.Acyclic) (evaluating : q.book.state? y = some .evaluating) :
    p.book.state? y = some .evaluating ∨ p.Expands y := by
  rcases h.cell_cases invariant acyclic y with same | ⟨expands, -⟩ | ⟨evaluates, -⟩ |
    ⟨e, -, -, -, dirty⟩
  · exact .inl ((state?_congr same).symm.trans evaluating)
  · exact .inr expands
  · exact .inl evaluates.2
  · rw [evaluating] at dirty
    cases dirty

theorem Stepped.settled_cases (h : Stepped p q) (invariant : p.Invariant) (acyclic : p.book.Acyclic)
    (settled : q.book.IsSettled x) : p.book.IsSettled x ∨ p.Evaluates x := by
  rcases h.cell_cases invariant acyclic x with same | ⟨-, evaluating⟩ | ⟨evaluates, -⟩ |
    ⟨e, -, -, before, -⟩
  · obtain ⟨c, hc, settled⟩ := settled
    exact .inl ⟨c, same ▸ hc, settled⟩
  · exact absurd settled (not_isSettled_of_state? CellState.not_settled_evaluating evaluating)
  · exact .inr evaluates
  · exact .inl before

/-- A cell that is open was so before, or was queued because of something that it reads. -/
theorem Stepped.open_cases (h : Stepped p q) (invariant : p.Invariant) (acyclic : p.book.Acyclic)
    (opened : q.book.IsOpen d) : p.book.IsOpen d ∨
      ∃ e, p.Evaluates e ∧ p.book.Reads d e ∧ p.book.IsSettled d ∧
      q.book.state? d = some .dirty := by
  rcases h.cell_cases invariant acyclic d with same | ⟨expands, -⟩ | ⟨-, settled⟩ | queued
  · obtain ⟨c, hc, unsettled⟩ := opened
    exact .inl ⟨c, same ▸ hc, unsettled⟩
  · exact .inl expands.isOpen
  · exact absurd opened settled.not_isOpen
  · exact .inr queued

/-! ## What is stacked on top of a cell -/

/-- A cell that is expanded has the open ones that it reads on top of it. -/
theorem Stepped.requests (h : Stepped p q) (invariant : p.Invariant) (acyclic : p.book.Acyclic)
    (expands : p.Expands y) (reads : p.book.Reads y d) (opened : q.book.IsOpen d) :
    Held q.book (above y q.stack) d := by
  obtain ⟨top, dirty⟩ := expands
  cases h with
  | fetch => cases top
  | evaluate => cases top
  | drop idle =>
    cases top
    exact absurd dirty idle
  | @expand w id stack pushed state pushes all =>
    cases top
    have unexpanded : ∀ f ∈ pushed, f.expanded = false := fun f hf => (pushes f hf).1
    obtain ⟨unremarkable, stacked⟩ := all d reads
    obtain ⟨c, hc, unsettled⟩ := opened
    have hs : (w.beginEvaluation y).state? d = some c.state := state?_eq_some.2 ⟨c, hc, rfl⟩
    -- An open cell waits and is stacked, or it is being evaluated, and then a loop would show.
    rcases CellState.not_settled_iff.1 unsettled with waits | evaluating
    · rw [waits] at hs
      refine .inl ⟨?_, hs⟩
      rw [above_append unexpanded, above_cons_self, List.append_nil]
      exact stacked hs
    · rw [evaluating] at hs
      exact absurd hs unremarkable.1
  | close state pushes loop => exact absurd loop (not_loopShows acyclic state invariant.tracked)

/-- What is stacked on top of a cell stays there while it is open. -/
theorem Stepped.held (h : Stepped p q) (invariant : p.Invariant) (acyclic : p.book.Acyclic)
    (evaluating : p.book.state? y = some .evaluating) (held : Held p.book (above y p.stack) d)
    (opened : q.book.IsOpen d) : Held q.book (above y q.stack) d := by
  cases h with
  | fetch => cases invariant.tracked.evaluating y evaluating
  -- The frame on top goes with its cell, which is settled then; so it is not the one that is
  -- open.
  | @evaluate w id stack state =>
    obtain ⟨c, hc, -⟩ := state?_eq_some.1 state
    refine held.of_evaluate hc ?_ ?_
    · rintro rfl
      exact held.not_top
    · rintro rfl
      have none : d ∉ w.dependentsOf d := invariant.wired.not_mem_dependentsOf_self (acyclic d)
      exact (isSettled_evaluateCell hc none).not_isOpen opened
  | drop idle =>
    refine held.of_drop ?_ idle
    rintro rfl
    exact held.not_top
  | @expand w id stack pushed state pushes all =>
    obtain ⟨c, hc, -⟩ := state?_eq_some.1 state
    refine held.of_expand hc (fun f hf => (pushes f hf).1) ?_
    rintro rfl
    rw [show w.state? y = _ from state] at evaluating
    cases evaluating
  | close state pushes loop => exact absurd loop (not_loopShows acyclic state invariant.tracked)

/-- While a cell is being evaluated, the open ones that it reads are on top of it, or were queued
in the meantime. -/
theorem Leads.attended (leads : p.Leads q) (invariant : p.Invariant) (acyclic : p.book.Acyclic)
    (idle : p.book.state? y ≠ some .evaluating) (evaluating : q.book.state? y = some .evaluating)
    (reads : q.book.Reads y d) (opened : q.book.IsOpen d) :
    Held q.book (above y q.stack) d ∨ Requeued p q d := by
  -- By induction on the steps since: the cell was expanded in the last of them, or it was being
  -- evaluated before.
  induction leads with
  | refl => exact absurd evaluating idle
  | @tail m q before next ih =>
    have step := stepped_of_step next
    have before : p.Leads m := before
    have invariant := before.keeps Stepped.invariant invariant
    have acyclic : m.book.Acyclic :=
      before.keeps (fun step => Acyclic.of_sameText step.sameText) acyclic
    have reads : m.book.Reads y d := by rwa [step.sameText.reads] at reads
    rcases step.evaluating_cases invariant acyclic evaluating with evaluating | expands
    · rcases step.open_cases invariant acyclic opened with before_ |
        ⟨e, evaluates, further, settled, dirty⟩
      · rcases ih evaluating reads before_ with held | requeued
        · exact .inl (step.held invariant acyclic evaluating held opened)
        · exact .inr (requeued.step next)
      · exact .inr ⟨m, q, e, before, evaluates, further, settled, next, dirty, .refl⟩
    · exact .inl (step.requests invariant acyclic expands reads opened)

/-! ## Where nothing is out of date -/

/-- Of what a cell reads, directly or through others, nothing settled reads an open cell, and what
is being evaluated has the open cells that it reads on top of it. -/
structure Ordered (r : CellId) (p : Pass) : Prop where
  current : p.book.CurrentBelow r
  requested (y d : CellId) : ReflTransGen p.book.Reads r y → p.book.Reads y d →
  p.book.state? y = some .evaluating →
    p.book.IsOpen d → Held p.book (above y p.stack) d

/-- What is not open stays so: if it were queued, it would have been out of date. -/
theorem Stepped.not_isOpen (h : Stepped p q) (invariant : p.Invariant) (acyclic : p.book.Acyclic)
    (current : p.book.CurrentBelow r) (below : ReflTransGen p.book.Reads r d)
    (closed : ¬ p.book.IsOpen d) :
    ¬ q.book.IsOpen d := by
  intro opened
  rcases h.open_cases invariant acyclic opened with before | ⟨e, evaluates, reads, settled, -⟩
  · exact closed before
  · exact current d e below reads settled evaluates.isOpen

theorem Stepped.ordered (h : Stepped p q) (invariant : p.Invariant) (acyclic : p.book.Acyclic)
    (ordered : p.Ordered r) : q.Ordered r := by
  have text := h.sameText
  have stays : ∀ {x d}, ReflTransGen p.book.Reads r x → p.book.Reads x d → ¬ p.book.IsOpen d →
    ¬ q.book.IsOpen d :=
    fun below reads closed => h.not_isOpen invariant acyclic ordered.current
      (.tail below reads) closed
  constructor
  · -- What has just been settled was evaluated, with nothing open left on top of it.
    intro x d below reads settled
    rw [text.reads] at below reads
    refine stays below reads ?_
    rcases h.settled_cases invariant acyclic settled with settled | evaluates
    · exact ordered.current x d below reads settled
    · exact fun opened => evaluates.not_held (ordered.requested x d below reads evaluates.2 opened)
  · intro y d below reads evaluating opened
    rw [text.reads] at below reads
    rcases h.evaluating_cases invariant acyclic evaluating with evaluating | expands
    · have before : p.book.IsOpen d := by
        by_contra closed
        exact stays below reads closed opened
      exact h.held invariant acyclic evaluating
        (ordered.requested y d below reads evaluating before) opened
    · exact h.requests invariant acyclic expands reads opened

/-- When a cell is expanded, nothing below it is being evaluated. -/
theorem Expands.ordered (expands : p.Expands r) (tracked : p.Tracked) (acyclic : p.book.Acyclic)
    (current : p.book.CurrentBelow r) : p.Ordered r := by
  refine ⟨current, fun y d below _ evaluating _ => ?_⟩
  rcases Relation.reflTransGen_iff_eq_or_transGen.1 below with rfl | below
  · rw [expands.2] at evaluating
    cases evaluating
  · exact absurd evaluating (tracked.not_evaluating_below acyclic expands.1 below)

/-- The moment of a pass after a number of steps. -/
def after : Nat → Pass → Option Pass
  | 0, p => some p
  | steps + 1, p => p.step.bind (after steps)

theorem leads_of_after {steps : Nat} (h : p.after steps = some q) : p.Leads q := by
  induction steps generalizing p with
  | zero =>
    cases h
    exact .refl
  | succ steps ih =>
    obtain ⟨m, step, rest⟩ := Option.bind_eq_some_iff.1 h
    exact .head step (ih rest)

end Pass

namespace Workbook

variable {w : Workbook} {p q : Pass} {id : CellId}

/-! ## Passes -/

/-- The moments of the passes over a workbook. -/
inductive Passing (w : Workbook) : Pass → Prop where
  | drain : Passing w ⟨w, []⟩
  | recalculate : Passing w ⟨w.volatileCells.foldl markDirty w, []⟩
  | step {p q : Pass} (passing : Passing w p) (next : p.step = some q) : Passing w q

theorem Passing.leads (passing : w.Passing p) (leads : p.Leads q) : w.Passing q := by
  induction leads with
  | refl => exact passing
  | tail _ next ih => exact ih.step next

theorem Passing.invariant (coherent : w.Coherent) (passing : w.Passing p) : p.Invariant := by
  induction passing with
  | drain => exact coherent.invariant
  | recalculate => exact (coherent.of_marked (marked_foldl_markDirty _ w).1).invariant
  | step _ next ih => exact (Pass.stepped_of_step next).invariant ih

theorem Passing.sameText (passing : w.Passing p) : SameText w p.book := by
  induction passing with
  | drain => exact .refl w
  | recalculate => exact (marked_foldl_markDirty _ w).1.text
  | step _ next ih => exact ih.trans (Pass.stepped_of_step next).sameText

theorem Passing.exists_expands (coherent : w.Coherent) (acyclic : w.Acyclic) (passing : w.Passing q)
    (evaluating : q.book.state? id = some .evaluating) :
    ∃ p, w.Passing p ∧ p.Expands id ∧ p.Leads q := by
  induction passing with
  | drain => cases (Passing.drain.invariant coherent).tracked.evaluating id evaluating
  | recalculate => cases (Passing.recalculate.invariant coherent).tracked.evaluating id evaluating
  | @step m q passing next ih =>
    have step := Pass.stepped_of_step next
    have acyclic := acyclic.of_sameText passing.sameText
    rcases step.evaluating_cases (passing.invariant coherent) acyclic evaluating with
      evaluating | expands
    · obtain ⟨p, start, expands, leads⟩ := ih evaluating
      exact ⟨p, start, expands, .tail leads next⟩
    · exact ⟨m, passing, expands, .single next⟩

/-- **Precedents settle first, unless they are queued again.** Where there are no loops, a cell
that is evaluated was expanded before, and nothing that it reads is being evaluated. If something
that it reads waits, then that was settled and was queued after the cell had been expanded,
because something was evaluated that it reads itself; which is not so if nothing below the cell
was out of date when the cell was expanded. -/
theorem precedents_settle_first (reachable : w.Reachable) (acyclic : w.Acyclic)
    (passing : w.Passing q) (evaluates : q.Evaluates id) :
    (∃ p, w.Passing p ∧ p.Expands id ∧ p.Leads q) ∧
      ∀ d, w.Reads id d → q.book.state? d ≠ some .evaluating ∧
        ∀ p, w.Passing p → p.Expands id → p.Leads q →
          (q.book.state? d = some .dirty → Pass.Requeued p q d) ∧
          (p.book.CurrentBelow id → q.book.state? d ≠ some .dirty) := by
  have coherent : w.Coherent := reachable.coherent
  refine ⟨passing.exists_expands coherent acyclic evaluates.2,
    fun d reads => ⟨?_, fun p start expands leads => ?_⟩⟩
  · refine (passing.invariant coherent).tracked.not_evaluating_below
      (acyclic.of_sameText passing.sameText) evaluates.1 ?_
    rw [passing.sameText.reads]
    exact .single reads
  · have invariant := start.invariant coherent
    have acyclic := acyclic.of_sameText start.sameText
    rw [← passing.sameText.reads] at reads
    refine ⟨fun dirty => ?_, fun current dirty => ?_⟩
    -- The frame of a cell that is evaluated is on top, so nothing is held above it; what is open
    -- was queued again.
    · have idle : p.book.state? id ≠ some .evaluating := by
        rw [expands.2]
        nofun
      have opened : q.book.IsOpen d := isOpen_of_state? CellState.not_settled_dirty dirty
      rcases leads.attended invariant acyclic idle evaluates.2 reads opened with held | requeued
      · exact absurd held evaluates.not_held
      · exact requeued
    -- With nothing out of date below the cell, the steps keep the order strict, and no cell is
    -- queued again.
    · let I : Pass → Prop := fun m => m.Invariant ∧ m.book.Acyclic ∧ m.Ordered id
      have keeps : ∀ {m m'}, Pass.Stepped m m' → I m → I m' := by
        intro m m' step ⟨invariant, acyclic, ordered⟩
        exact ⟨step.invariant invariant, acyclic.of_sameText step.sameText,
          step.ordered invariant acyclic ordered⟩
      have kept : I q :=
        leads.keeps keeps ⟨invariant, acyclic, expands.ordered invariant.tracked acyclic current⟩
      have opened : q.book.IsOpen d := isOpen_of_state? CellState.not_settled_dirty dirty
      exact evaluates.not_held (kept.2.2.requested id d .refl reads evaluates.2 opened)

theorem currentBelow_of_all_dirty (dirty : ∀ x ∈ w.readers.toList, w.state? x = some .dirty)
    (id : CellId) :
    w.CurrentBelow id := by
  intro x d _ reads settled
  have waits := dirty x (Std.ExtTreeSet.mem_toList.2 (mem_readers.2 ⟨d, reads⟩))
  exact absurd settled (not_isSettled_of_state? CellState.not_settled_dirty waits)

/-- The first pass over a number, a cell that reads it, and one that reads both. -/
theorem precedents_settle_first_of_fresh :
    ∃ (w : Workbook) (q : Pass), w.Reachable ∧ w.Acyclic ∧ w.Passing q ∧ q.Evaluates ⟨0, ⟨0, 2⟩⟩ ∧
      w.Reads ⟨0, ⟨0, 2⟩⟩ ⟨0, ⟨0, 1⟩⟩ ∧ q.book.state? ⟨0, ⟨0, 1⟩⟩ ≠ some .dirty := by
  let w := (((create Settings.default ⟨⟨2000, 1, 1⟩, 0⟩ 0).writeCell ⟨0, ⟨0, 0⟩⟩ "1").writeCell
    ⟨0, ⟨0, 1⟩⟩ "=A1").writeCell
    ⟨0, ⟨0, 2⟩⟩ "=A1+B1"
  let p := (Pass.after 1 ⟨w, []⟩).get (by decide +kernel)
  let q := (Pass.after 6 p).get (by decide +kernel)
  have reachable : w.Reachable := (((reachable_create _ _ _ _).write _ _).write _ _).write _ _
  have acyclic : w.Acyclic := by decide +kernel
  have start : w.Passing p := Passing.drain.leads (Pass.leads_of_after (Option.some_get _).symm)
  have leads : p.Leads q := Pass.leads_of_after (Option.some_get _).symm
  have expands : p.Expands ⟨0, ⟨0, 2⟩⟩ := by decide +kernel
  have evaluates : q.Evaluates ⟨0, ⟨0, 2⟩⟩ := by decide +kernel
  have reads : w.Reads ⟨0, ⟨0, 2⟩⟩ ⟨0, ⟨0, 1⟩⟩ := Std.ExtTreeSet.mem_toList.1 (by decide +kernel)
  have current : p.book.CurrentBelow ⟨0, ⟨0, 2⟩⟩ := currentBelow_of_all_dirty (by decide +kernel) _
  have passing := start.leads leads
  have settles := (precedents_settle_first reachable acyclic passing evaluates).2 _ reads
  exact ⟨w, q, reachable, acyclic, passing, evaluates, reads,
    (settles.2 p start expands leads).2 current⟩

/-- A cell can be evaluated while something that it reads waits. Of a chain of three cells, the
last one is out of date once the first was written again, but is not queued before the second has
been evaluated; that is done for a fourth cell, which reads all three and was expanded when the
last one was still settled. -/
theorem precedents_can_wait :
    ∃ (w : Workbook) (q : Pass) (id d : CellId), w.Reachable ∧ w.Acyclic ∧ w.Passing q ∧
      q.Evaluates id ∧
      w.Reads id d ∧ q.book.state? d = some .dirty := by
  let w₁ := ((((create Settings.default ⟨⟨2000, 1, 1⟩, 0⟩ 0).writeCell ⟨0, ⟨0, 3⟩⟩ "1").writeCell
    ⟨0, ⟨0, 2⟩⟩ "=D1").writeCell
    ⟨0, ⟨0, 1⟩⟩ "=C1").writeCell ⟨0, ⟨0, 4⟩⟩ "=B1+C1+D1"
  -- All cells are settled, the fourth after the others, and then the first is written again.
  let w₂ := (w₁.drain 60).get (by decide +kernel)
  let w := w₂.writeCell ⟨0, ⟨0, 3⟩⟩ "2"
  let q := (Pass.after 6 ⟨w, []⟩).get (by decide +kernel)
  have drained : w₁.drain 60 = some w₂ := (Option.some_get _).symm
  have reachable₁ : w₁.Reachable :=
    ((((reachable_create _ _ _ _).write _ _).write _ _).write _ _).write _ _
  have reachable : w.Reachable := (reachable₁.drain drained).write _ _
  have passing : w.Passing q := Passing.drain.leads (Pass.leads_of_after (Option.some_get _).symm)
  have reads : w.Reads ⟨0, ⟨0, 4⟩⟩ ⟨0, ⟨0, 1⟩⟩ := Std.ExtTreeSet.mem_toList.1 (by decide +kernel)
  exact ⟨w, q, _, _, reachable, by decide +kernel, passing, by decide +kernel,
    reads, by decide +kernel⟩

end Workbook

end Spreadsheet
