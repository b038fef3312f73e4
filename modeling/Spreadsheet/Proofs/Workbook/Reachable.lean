import Spreadsheet.Proofs.Recalculation.Invariant
import Spreadsheet.Proofs.Workbook.Coherent
import Spreadsheet.Workbook.Query

/-!
# `Proofs/Workbook/Reachable.lean` — the workbooks that operations lead to

A workbook is reachable if some run of operations leads to it from a new one. Cells are written and
cleared by their numbers here, which takes in every operation that names them by a text, and more:
nothing is asked of the sheet that a cell is on. Loading a file is a run of these operations. A pass
must return to be an operation, because on some sheets with overlapping loops it does not.

Every reachable workbook is coherent, whatever its loops and functions are, and after a pass all of
its cells are settled.

What a result needs of the workbooks on the way, such as formulas of lawful functions only, is
asked for at every stage (`ReachableWithin`), and a property that every operation keeps is lifted
to reachable workbooks by induction on the run.
-/

set_option autoImplicit false

namespace Spreadsheet.Workbook

variable {w w' : Workbook} {x : CellId}

/-! ## Passes -/

/-- No cell waits. -/
def AllSettled (w : Workbook) : Prop := ∀ x c, w.cell? x = some c → c.state.Settled

theorem Coherent.invariant (h : w.Coherent) : Pass.Invariant ⟨w, []⟩ where
  wired := h.wired
  sound x := h.sound x (by simp)
  tracked := by
    have unsettled : ∀ x st, ¬ st.Settled → w.state? x = some st → st = .dirty ∧ x ∈ w.pending := by
      intro x st unsettled hx
      obtain ⟨c, hc, rfl⟩ := state?_eq_some.1 hx
      rcases h.waits x c hc with settled | ⟨dirty, pending⟩
      · exact absurd settled unsettled
      · exact ⟨dirty, pending⟩
    refine ⟨trivial, fun x hx => ?_, fun x hx => ?_⟩
    · exact .inl (unsettled x _ CellState.not_settled_dirty hx).2
    · cases (unsettled x _ CellState.not_settled_evaluating hx).1

theorem pending_of_drain {steps : Nat} (drained : w.drain steps = some w') : w'.pending = [] :=
  (Pass.run_keeps (I := fun _ => True) (fun _ _ => trivial) drained trivial).2

/-- A pass that returns leaves a coherent workbook with the same text in which every cell is
settled. -/
theorem Coherent.drain (h : w.Coherent) {steps : Nat} (drained : w.drain steps = some w') :
    w'.Coherent ∧ w'.AllSettled ∧ SameText w w' := by
  obtain ⟨invariant, pending⟩ := Pass.run_keeps Pass.Stepped.invariant drained h.invariant
  have settled : w'.AllSettled := by
    intro x c hc
    by_contra unsettled
    rcases CellState.not_settled_iff.1 unsettled with dirty | evaluating
    · rcases invariant.tracked.dirty x (state?_eq_some.2 ⟨c, hc, dirty⟩) with mem | frame
      · have mem : x ∈ w'.pending := mem
        rw [pending] at mem
        cases mem
      · cases frame
    · cases invariant.tracked.evaluating x (state?_eq_some.2 ⟨c, hc, evaluating⟩)
  refine ⟨⟨invariant.wired, fun x c hc => .inl (settled x c hc), fun x _ => invariant.sound x⟩,
    settled, ?_⟩
  exact Pass.run_sameText drained

/-- Queueing keeps a workbook coherent. -/
theorem Coherent.of_marked (h : w.Coherent) (marked : Marked w w') : w'.Coherent where
  wired := h.wired.of_sameText marked.text
  waits x c hc := by
    rcases marked.cell x with same | ⟨c', -, -, queued, pending⟩
    · rcases h.waits x c (same ▸ hc) with settled | ⟨dirty, pending⟩
      · exact .inl settled
      · exact .inr ⟨dirty, marked.pending x pending⟩
    · rw [hc] at queued
      cases queued
      exact .inr ⟨rfl, pending⟩
  sound x _ := (marked.undisturbed x).sound marked.text (h.sound x (by simp))

theorem Coherent.recalculate (h : w.Coherent) {steps : Nat} (done : w.recalculate steps = some w') :
    w'.Coherent ∧ w'.AllSettled ∧ SameText w w' := by
  have marked := (marked_foldl_markDirty w.volatileCells w).1
  obtain ⟨coherent, settled, text⟩ := (h.of_marked marked).drain done
  exact ⟨coherent, settled, marked.text.trans text⟩

/-- The clock and the count of calls mean nothing to a coherent workbook: soundness speaks of time
only where it does not matter. -/
theorem Coherent.of_clock (h : w.Coherent) (now : Moment) (calls : CallCounts) :
    ({ w with now := now, calls := calls } : Workbook).Coherent := by
  refine ⟨h.wired.of_records rfl rfl, h.waits, fun x _ => ?_⟩
  have sound := h.sound x (by simp)
  have undisturbed : Undisturbed w { w with now := now, calls := calls } x :=
    ⟨fun _ hc _ => hc, fun _ _ _ => .inl rfl,
      fun _ _ _ _ _ => ⟨rfl, fun _ _ => rfl, fun _ _ _ => rfl, fun _ _ => rfl⟩⟩
  refine ⟨fun c hc => sound.compiled c hc, fun stable => ?_, undisturbed.traced sound.traced⟩
  exact undisturbed.consistent sound.compiled (.inr stable) (sound.consistent stable)

/-! ## Runs -/

/-- What can be done to a workbook. -/
inductive Operation : Workbook → Workbook → Prop where
  | write {w : Workbook} (id : CellId) (raw : String) : Operation w (w.writeCell id raw)
  | clear {w : Workbook} (id : CellId) : Operation w (w.clearCell id)
  | addSheet {w w' : Workbook} {name : String} {order : Enumeration} {sheet : Nat}
      (added : w.addSheet name order = .ok (sheet, w')) : Operation w w'
  | addFunction {w : Workbook} (f : Function) (order : Enumeration) :
      Operation w (w.addFunction f order)
  /-- Someone asks for a value, and every waiting cell is settled first. -/
  | drain {w w' : Workbook} {steps : Nat} (drained : w.drain steps = some w') : Operation w w'
  | recalculate {w w' : Workbook} {steps : Nat} (done : w.recalculate steps = some w') :
      Operation w w'
  | preview {w w' : Workbook} {steps : Nat} {source : String} {sheet : Option String}
      {value : Value}
      (previewed : w.preview steps source sheet = .ok (value, w')) : Operation w w'
  | clock {w : Workbook} (now : Moment) : Operation w { w with now := now }

/-- What a run of operations leads to that keeps to some workbooks. -/
inductive ReachableWithin (P : Workbook → Prop) : Workbook → Prop where
  | create (settings : Settings) (now : Moment) (seed : Nat) (engine : Regex.Engine) :
      ReachableWithin P (create settings now seed engine)
  | operation {w w' : Workbook} (reachable : ReachableWithin P w) (operation : Operation w w')
      (within : P w') :
      ReachableWithin P w'

/-- What some run of operations leads to. -/
def Reachable (w : Workbook) : Prop := ReachableWithin (fun _ => True) w

theorem reachable_create (settings : Settings) (now : Moment) (seed : Nat)
    (engine : Regex.Engine) : (create settings now seed engine).Reachable :=
  .create settings now seed engine

theorem Reachable.write (reachable : w.Reachable) (id : CellId) (raw : String) :
    (w.writeCell id raw).Reachable :=
  .operation reachable (.write id raw) trivial

theorem Reachable.clear (reachable : w.Reachable) (id : CellId) : (w.clearCell id).Reachable :=
  .operation reachable (.clear id) trivial

theorem Reachable.drain (reachable : w.Reachable) {steps : Nat}
    (drained : w.drain steps = some w') : w'.Reachable :=
  .operation reachable (.drain drained) trivial

theorem ReachableWithin.mono {P Q : Workbook → Prop} (sub : ∀ w, P w → Q w)
    (reachable : w.ReachableWithin P) :
    w.ReachableWithin Q := by
  induction reachable with
  | create settings now seed engine => exact .create settings now seed engine
  | operation _ operation within ih => exact .operation ih operation (sub _ within)

/-- A run ends in one of the workbooks that it keeps to, if every new workbook is one of them. -/
theorem ReachableWithin.within {P : Workbook → Prop} (reachable : w.ReachableWithin P)
    (initial : ∀ settings now seed engine, P (Workbook.create settings now seed engine)) : P w := by
  cases reachable with
  | create settings now seed engine => exact initial settings now seed engine
  | operation _ _ within => exact within

/-! ## Answers -/

/-- A call that is not refused is answered. -/
theorem eq_ok_get {α : Type} (a : Except Failure α) (h : a.toOption.isSome = true) :
    a = .ok (a.toOption.get h) := by
  cases a with
  | error fault => cases h
  | ok r => rfl

theorem drain_of_settled {steps : Nat} (h : w.settled steps = .ok w') :
    w.drain steps = some w' := by
  unfold settled at h
  split at h
  next drained =>
    cases h
    exact drained
  next => cases h

/-- A preview settles what waits and counts the calls that it makes. -/
theorem drain_of_preview {steps : Nat} {source : String} {sheet : Option String} {value : Value}
    (previewed : w.preview steps source sheet = .ok (value, w')) :
    ∃ w₁ calls, w.drain steps = some w₁ ∧ w' = { w₁ with calls := calls } := by
  obtain ⟨target, -, rest⟩ := exists_of_bind_eq_ok previewed
  split at rest
  next => cases rest
  next =>
    obtain ⟨w₁, settled, answer⟩ := exists_of_bind_eq_ok rest
    cases answer
    exact ⟨w₁, _, drain_of_settled settled, rfl⟩

/-! ## Coherence -/

theorem Operation.coherent (operation : Operation w w') (h : w.Coherent) : w'.Coherent := by
  cases operation with
  | write id raw => exact h.writeCell id raw
  | clear id => exact h.clearCell id
  | addSheet added => exact coherent_addSheet h added
  | addFunction f order => exact coherent_addFunction h f order
  | drain drained => exact (h.drain drained).1
  | recalculate done => exact (h.recalculate done).1
  | preview previewed =>
    obtain ⟨w₁, calls, drained, rfl⟩ := drain_of_preview previewed
    exact (h.drain drained).1.of_clock w₁.now calls
  | clock now => exact h.of_clock now w.calls

/-- Every workbook that operations lead to is coherent. -/
theorem ReachableWithin.coherent {P : Workbook → Prop} (reachable : ReachableWithin P w) :
    w.Coherent := by
  induction reachable with
  | create settings now seed engine => exact coherent_create settings now seed engine
  | operation _ operation _ ih => exact operation.coherent ih

end Spreadsheet.Workbook
