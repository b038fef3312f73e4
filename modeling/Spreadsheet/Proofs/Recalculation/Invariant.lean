import Spreadsheet.Proofs.Recalculation.Soundness
import Spreadsheet.Proofs.Recalculation.Step
import Spreadsheet.Proofs.Workbook.Loop

/-!
# `Proofs/Recalculation/Invariant.lean` — what every step of a pass keeps

Nothing written changes, every cell stays sound, and the stack and the queue account for every cell
that is not settled: one that waits is queued or has a frame to be expanded, one that is being
evaluated has an expanded frame (`Tracked`). So when a pass is over, every cell is settled.

None of this supposes anything about loops, or about what the formulas compute.

The account is by cell and not by frame. Frames may be left over, of cells that were settled in
the meantime, and these are dropped when they come to the top; a cell that is not settled is never
without its own.
-/

set_option autoImplicit false

namespace Spreadsheet.Pass

open Workbook

variable {p q : Pass} {w w' : Workbook} {id x d : CellId} {c : Cell} {stack pushed : List Frame}
    {members : List CellId}

/-! ## The account of the cells that are not settled -/

/-- The stack is threaded, and cells that are not settled are accounted for by queue and stack. -/
structure Tracked (p : Pass) : Prop where
  threaded : Threaded p.book.Reads p.stack
  dirty (x : CellId) : p.book.state? x = some .dirty → x ∈ p.book.pending ∨ ⟨x, false⟩ ∈ p.stack
  evaluating (x : CellId) : p.book.state? x = some .evaluating → ⟨x, true⟩ ∈ p.stack

/-- All that every step of a pass keeps. -/
structure Invariant (p : Pass) : Prop where
  wired : p.book.Wired
  sound (x : CellId) : p.book.Sound x
  tracked : p.Tracked

/-- What shows as a loop is one, through the cell just expanded. -/
theorem LoopShows.isLoop {reads : List CellId}
    (h : LoopShows w id (⟨id, true⟩ :: stack) reads members)
    (tracked : Tracked ⟨w, ⟨id, true⟩ :: stack⟩) (read : ∀ d ∈ reads, w.Reads id d) :
    ∃ start, Graph.IsLoop w.Reads start members ∧ id ∈ members := by
  rcases h with ⟨d, hd, state, rfl⟩ | ⟨-, found⟩
  · exact ⟨d, isLoop_loopFrom tracked.threaded (tracked.evaluating d state) (read d hd)⟩
  · have loop := isLoop_of_loop? found
    exact ⟨id, loop, loop.start_mem⟩

theorem Stepped.sameText (h : Stepped p q) : SameText p.book q.book := by
  cases h with
  | fetch => exact ⟨rfl, rfl, rfl, rfl, rfl, fun _ => rfl, fun _ => rfl⟩
  | @evaluate w id stack state =>
    obtain ⟨c, hc, -⟩ := state?_eq_some.1 state
    exact sameText_evaluateCell hc
  | drop => exact .refl _
  | expand state =>
    obtain ⟨c, hc, -⟩ := state?_eq_some.1 state
    exact sameText_beginEvaluation hc
  | @close w id stack pushed members state =>
    obtain ⟨c, hc, -⟩ := state?_eq_some.1 state
    exact (sameText_beginEvaluation hc).trans (sameText_settleLoop members _)

/-- Queueing settled cells adds none that is not accounted for. -/
theorem tracked_of_marked {s : Workbook} (marked : Marked s w)
    (dirty : ∀ x, s.state? x = some .dirty → x ∈ s.pending ∨ ⟨x, false⟩ ∈ stack)
    (evaluating : ∀ x, s.state? x = some .evaluating → ⟨x, true⟩ ∈ stack)
    (threaded : Threaded w.Reads stack) :
    Tracked ⟨w, stack⟩ where
  threaded := threaded
  dirty x hx := by
    -- A cell that was marked is in the queue for that reason; the others are as they were.
    rcases marked.cell x with same | ⟨c, -, -, -, pending⟩
    · rcases dirty x ((state?_congr same).symm.trans hx) with pending | frame
      · exact .inl (marked.pending x pending)
      · exact .inr frame
    · exact .inl pending
  evaluating x hx := by
    rcases marked.cell x with same | ⟨c, -, -, hc, -⟩
    · exact evaluating x ((state?_congr same).symm.trans hx)
    · obtain ⟨c', hc', state⟩ := state?_eq_some.1 hx
      have hc : w.cell? x = some { c with state := .dirty } := hc
      rw [hc] at hc'
      cases hc'
      cases state

theorem state?_beginEvaluation (hc : w.cell? id = some c) (x : CellId) :
    (w.beginEvaluation id).state? x = if x = id then some .evaluating else w.state? x := by
  unfold state?
  rw [cell?_beginEvaluation hc]
  split <;> rfl

/-- The account after a cell began to be evaluated, with its expanded frame in the place of the
old. -/
theorem tracked_beginEvaluation (hc : w.cell? id = some c)
    (tracked : Tracked ⟨w, ⟨id, false⟩ :: stack⟩)
    (pushes : Pushed (w.beginEvaluation id) (w.precedentsOf id).toList pushed) :
    Tracked ⟨w.beginEvaluation id, pushed ++ ⟨id, true⟩ :: stack⟩ := by
  have text := sameText_beginEvaluation hc
  refine ⟨?_, fun x hx => ?_, fun x hx => ?_⟩
  · -- What is pushed is read by the cell, whose expanded frame is right below.
    show Threaded (w.beginEvaluation id).Reads _
    rw [text.reads]
    refine Threaded.push (Threaded.expand tracked.threaded) fun f hf => ?_
    obtain ⟨unexpanded, mem, -⟩ := pushes f hf
    exact ⟨unexpanded, Std.ExtTreeSet.mem_toList.1 mem⟩
  · rw [show (w.beginEvaluation id).state? x = _ from state?_beginEvaluation hc x] at hx
    split at hx
    · cases hx
    next ne =>
      show x ∈ (w.beginEvaluation id).pending ∨ _
      rw [pending_beginEvaluation hc]
      rcases tracked.dirty x hx with pending | frame
      · exact .inl pending
      · rcases List.mem_cons.1 frame with same | frame
        · cases same
          exact absurd rfl ne
        · exact .inr (List.mem_append_right _ (List.mem_cons_of_mem _ frame))
  · -- The cell itself is being evaluated now, and that is its new frame.
    rw [show (w.beginEvaluation id).state? x = _ from state?_beginEvaluation hc x] at hx
    split at hx
    next same =>
      subst same
      simp
    next ne =>
      rcases List.mem_cons.1 (tracked.evaluating x hx) with same | frame
      · cases same
      · exact List.mem_append_right _ (List.mem_cons_of_mem _ frame)

/-- What a step settles as a loop is one, through the cell that it expands. -/
theorem isLoop_of_close (hc : w.cell? id = some c) (tracked : Tracked ⟨w, ⟨id, false⟩ :: stack⟩)
    (loop : LoopShows (w.beginEvaluation id) id (⟨id, true⟩ :: stack)
      (w.precedentsOf id).toList members) :
    ∃ start, Graph.IsLoop w.Reads start members ∧ id ∈ members := by
  have text := sameText_beginEvaluation hc
  have none : Pushed (w.beginEvaluation id) (w.precedentsOf id).toList [] := nofun
  have begun : Tracked ⟨w.beginEvaluation id, ⟨id, true⟩ :: stack⟩ :=
    tracked_beginEvaluation hc tracked none
  rw [← text.reads]
  refine loop.isLoop begun fun d hd => ?_
  rw [text.reads]
  exact Std.ExtTreeSet.mem_toList.1 hd

/-- The account after a cell was evaluated, without its frame. -/
theorem tracked_evaluateCell (hc : w.cell? id = some c)
    (tracked : Tracked ⟨w, ⟨id, true⟩ :: stack⟩) :
    Tracked ⟨w.evaluateCell id, stack⟩ := by
  obtain ⟨s, -, pending, cell, marked, -⟩ := evaluateCell_spec hc
  -- The cell itself is settled now, so one that is not was so before.
  have states : ∀ x st, ¬ st.Settled → s.state? x = some st → x ≠ id ∧ w.state? x = some st := by
    intro x st unsettled hx
    unfold state? at hx ⊢
    rw [cell] at hx
    split at hx
    next =>
      cases hx
      exact absurd (settled_stateOf _) unsettled
    next ne => exact ⟨ne, hx⟩
  refine tracked_of_marked marked (fun x hx => ?_) (fun x hx => ?_) ?_
  · obtain ⟨-, hx⟩ := states x _ CellState.not_settled_dirty hx
    rw [pending]
    rcases tracked.dirty x hx with mem | frame
    · exact .inl mem
    · rcases List.mem_cons.1 frame with same | frame
      · cases same
      · exact .inr frame
  · obtain ⟨ne, hx⟩ := states x _ CellState.not_settled_evaluating hx
    rcases List.mem_cons.1 (tracked.evaluating x hx) with same | frame
    · cases same
      exact absurd rfl ne
    · exact frame
  · rw [(sameText_evaluateCell hc).reads]
    exact tracked.threaded.2

/-- The account after cells were settled as a loop, whose frames are left where they are. -/
theorem tracked_settleLoop (members : List CellId) (tracked : Tracked ⟨w, stack⟩) :
    Tracked ⟨w.settleLoop members, stack⟩ := by
  obtain ⟨s, -, pending, cell, marked, -⟩ := settleLoop_spec members w
  have states : ∀ x st, ¬ st.Settled → s.state? x = some st → w.state? x = some st := by
    intro x st unsettled hx
    unfold state? at hx ⊢
    rw [cell] at hx
    split at hx
    next =>
      rw [Option.map_map, Option.map_eq_some_iff] at hx
      obtain ⟨c, -, rfl⟩ := hx
      exact absurd CellState.settled_error unsettled
    next => exact hx
  refine tracked_of_marked marked (fun x hx => ?_) (fun x hx => ?_) ?_
  · rw [pending]
    exact tracked.dirty x (states x _ CellState.not_settled_dirty hx)
  · exact tracked.evaluating x (states x _ CellState.not_settled_evaluating hx)
  · rw [(sameText_settleLoop members w).reads]
    exact tracked.threaded

theorem Stepped.tracked (h : Stepped p q) (tracked : p.Tracked) : q.Tracked := by
  cases h with
  | @fetch w id rest pending =>
    -- The queue loses a cell to the stack, which was empty.
    refine ⟨⟨nofun, trivial⟩, fun x hx => ?_, fun x hx => ?_⟩
    · rcases tracked.dirty x hx with mem | frame
      · have mem : x ∈ w.pending := mem
        rw [pending] at mem
        rcases List.mem_cons.1 mem with rfl | mem
        · exact .inr (List.mem_singleton.2 rfl)
        · exact .inl mem
      · cases frame
    · cases tracked.evaluating x hx
  | @evaluate w id stack state =>
    obtain ⟨c, hc, -⟩ := state?_eq_some.1 state
    exact tracked_evaluateCell hc tracked
  -- The frame that goes is that of a cell which did not need it any more.
  | @drop w frame stack idle =>
    refine ⟨tracked.threaded.2, fun x hx => ?_, fun x hx => ?_⟩
    · rcases tracked.dirty x hx with mem | mem
      · exact .inl mem
      · rcases List.mem_cons.1 mem with rfl | mem
        · exact absurd hx idle
        · exact .inr mem
    · rcases List.mem_cons.1 (tracked.evaluating x hx) with rfl | mem
      · exact absurd hx idle
      · exact mem
  | @expand w id stack pushed state pushes all =>
    obtain ⟨c, hc, -⟩ := state?_eq_some.1 state
    exact tracked_beginEvaluation hc tracked pushes
  | @close w id stack pushed members state pushes loop =>
    obtain ⟨c, hc, -⟩ := state?_eq_some.1 state
    exact tracked_settleLoop members (tracked_beginEvaluation hc tracked pushes)

theorem Stepped.sound (h : Stepped p q) (invariant : p.Invariant) (x : CellId) :
    q.book.Sound x := by
  cases h with
  | @fetch w id rest pending => exact (invariant.sound x).of_queue rest
  | @evaluate w id stack state =>
    obtain ⟨c, hc, -⟩ := state?_eq_some.1 state
    exact sound_evaluateCell invariant.wired hc invariant.sound x
  | drop => exact invariant.sound x
  | @expand w id stack pushed state pushes all =>
    obtain ⟨c, hc, -⟩ := state?_eq_some.1 state
    exact sound_beginEvaluation hc (invariant.sound x)
  -- A loop that is settled is one: each member reads the next, and that is all that is needed.
  | @close w id stack pushed members state pushes loop =>
    obtain ⟨c, hc, -⟩ := state?_eq_some.1 state
    have text := sameText_beginEvaluation hc
    obtain ⟨start, found, -⟩ := isLoop_of_close hc invariant.tracked loop
    rw [← text.reads] at found
    exact sound_settleLoop (invariant.wired.of_sameText text) (fun m hm => found.next hm)
      (fun x => sound_beginEvaluation hc (invariant.sound x)) x

/-- Every step keeps the invariant. -/
theorem Stepped.invariant (h : Stepped p q) (invariant : p.Invariant) : q.Invariant where
  wired := invariant.wired.of_sameText h.sameText
  sound := h.sound invariant
  tracked := h.tracked invariant.tracked

/-! ## Whole passes -/

/-- What every step keeps holds when the pass is over. -/
theorem run_keeps {I : Pass → Prop} (keeps : ∀ {p q}, Stepped p q → I p → I q) {steps : Nat}
    (h : run steps p = some w) (initial : I p) : I ⟨w, []⟩ ∧ w.pending = [] := by
  induction steps generalizing p with
  | zero => cases h
  | succ steps ih =>
    rw [run] at h
    split at h
    next ended =>
      cases h
      obtain ⟨stack, pending⟩ := over_of_step ended
      refine ⟨?_, pending⟩
      rw [← stack]
      exact initial
    next q step => exact ih h (keeps (stepped_of_step step) initial)

/-- Steps to spare make no difference to how a pass ends. -/
theorem run_unique {steps steps' : Nat} {w' : Workbook} (h : run steps p = some w)
    (h' : run steps' p = some w') :
    w = w' := by
  -- A run is determined step by step, so the shorter of the two is where the longer one ends.
  induction steps generalizing steps' p with
  | zero => cases h
  | succ steps ih =>
    cases steps' with
    | zero => cases h'
    | succ steps' =>
      rw [run] at h h'
      split at h
      next ended =>
        rw [ended] at h'
        cases h
        cases h'
        rfl
      next q step =>
        rw [step] at h'
        exact ih h h'

theorem run_sameText {steps : Nat} (h : run steps p = some w) : SameText p.book w :=
  (run_keeps (I := fun q => SameText p.book q.book) (fun step text => text.trans step.sameText) h
    (.refl _)).1

end Spreadsheet.Pass
