import Spreadsheet.Proofs.Workbook.Reachable

/-!
# `Proofs/Recalculation/Stored.lean` — what holds of every value on record

No edit makes a value. One comes on record when a cell is evaluated or when a loop is settled, and
goes when a cell is cleared. So what holds of nothing at all, of the error of a loop and of
whatever is evaluated in a pass holds of every value on record (`Operation.holds`); what is
evaluated is looked at elsewhere, for each property in its own way.

Two instances are made of this: values that equal themselves, for what goes stale, and values that
are finite. Either has to say only what evaluation makes of values that have the property, and
nothing of what operations do to the records.
-/

set_option autoImplicit false

namespace Spreadsheet

namespace Workbook

/-- Something holds of every value on record. -/
def Holds (w : Workbook) (P : Value → Prop) : Prop := ∀ x, P (w.settledValue x)

variable {P : Value → Prop} {w w' : Workbook} {id x : CellId} {c : Cell}

theorem Holds.of_settledValue (holds : w.Holds P)
    (same : ∀ x, w'.settledValue x = w.settledValue x) : w'.Holds P := by
  intro x
  rw [same]
  exact holds x

theorem holds_create (P : Value → Prop) (blank : P .blank) (settings : Settings) (now : Moment)
    (seed : Nat) (engine : Regex.Engine) :
    (create settings now seed engine).Holds P := by
  intro x
  rw [settledValue_of_none (cell?_create settings now seed engine x)]
  exact blank

/-! ## Edits -/

/-- An edited cell keeps its value, or is gone. -/
theorem Holds.of_edited (blank : P .blank) (holds : w.Holds P) (edited : Edited id w w')
    (own : w'.settledValue id = w.settledValue id ∨ w'.cell? id = none) : w'.Holds P := by
  intro x
  -- No other value is touched by an edit.
  by_cases hx : x = id
  · subst hx
    rcases own with same | gone
    · rw [same]
      exact holds x
    · rw [settledValue_of_none gone]
      exact blank
  · rw [edited.settledValue hx]
    exact holds x

theorem Holds.writeCell (blank : P .blank) (holds : w.Holds P) (wired : w.Wired) (id : CellId)
    (raw : String) :
    (w.writeCell id raw).Holds P :=
  holds.of_edited blank (edited_writeCell wired id raw)
    (.inl (settledValue_of_cell? (cell?_writeCell_self wired id raw).1))

theorem Holds.clearCell (blank : P .blank) (holds : w.Holds P) (wired : w.Wired) (id : CellId) :
    (w.clearCell id).Holds P := by
  rcases edited_clearCell wired id with same | edited
  · rw [same]
    exact holds
  · exact holds.of_edited blank edited (.inr (cell?_clearCell_self wired id))

theorem Holds.recompile (blank : P .blank) (ids : List CellId) {w : Workbook} (holds : w.Holds P)
    (wired : w.Wired) :
    (ids.foldl recompile w).Holds P := by
  induction ids generalizing w with
  | nil => exact holds
  | cons id ids ih =>
    rw [List.foldl_cons]
    unfold Workbook.recompile
    cases w.cell? id with
    | none => exact ih holds wired
    | some c =>
      exact ih (holds.writeCell blank wired id c.raw) (edited_writeCell wired id c.raw).wired

/-! ## Passes -/

/-- What is evaluated comes on record. -/
theorem Holds.evaluateCell (holds : w.Holds P) (hc : w.cell? id = some c)
    (evaluated : P (w.evaluated id.sheet c.compiled.content)) : (w.evaluateCell id).Holds P := by
  obtain ⟨s, -, -, cell, marked, -⟩ := evaluateCell_spec hc
  have settled : s.Holds P := by
    intro x
    by_cases hx : x = id
    · rw [settledValue_of_cell? (c := w.evaluatedCell id c) (by rw [cell, if_pos hx])]
      exact evaluated
    · rw [settledValue_congr (w := w) (by rw [cell, if_neg hx])]
      exact holds x
  exact settled.of_settledValue marked.settledValue

theorem Holds.settleLoop (blank : P .blank) (cycle : P (.error .cycle)) (holds : w.Holds P)
    (members : List CellId) :
    (w.settleLoop members).Holds P := by
  obtain ⟨s, -, -, cell, marked, -⟩ := settleLoop_spec members w
  refine Holds.of_settledValue (w := s) (fun x => ?_) marked.settledValue
  unfold settledValue
  rw [cell]
  by_cases hx : x ∈ members
  · rw [if_pos hx]
    cases w.cell? x with
    | none => exact blank
    | some c => exact cycle
  · rw [if_neg hx]
    exact holds x

end Workbook

open Workbook in
theorem Pass.Stepped.holds (P : Value → Prop) {p q : Pass} (h : Stepped p q) (blank : P .blank)
    (cycle : P (.error .cycle))
      (evaluated : ∀ id c, p.stack.head? = some ⟨id, true⟩ → p.book.state? id = some .evaluating →
      p.book.cell? id = some c → P (p.book.evaluated id.sheet c.compiled.content))
    (holds : p.book.Holds P) : q.book.Holds P := by
  -- That a cell begins to be evaluated does not touch its value.
  have begun : ∀ {w : Workbook} {id : CellId}, w.state? id = some .dirty → w.Holds P →
    (w.beginEvaluation id).Holds P := by
    intro w id state holds
    obtain ⟨c, hc, -⟩ := state?_eq_some.1 state
    exact holds.of_settledValue (settledValue_beginEvaluation hc)
  cases h with
  | fetch => exact holds
  | @evaluate w id stack state =>
    obtain ⟨c, hc, -⟩ := state?_eq_some.1 state
    exact holds.evaluateCell hc (evaluated id c rfl state hc)
  | drop => exact holds
  | expand state => exact begun state holds
  | close state => exact (begun state holds).settleLoop blank cycle _

namespace Workbook

variable {P : Value → Prop} {w w' : Workbook}

/-- Where a pass begins: at the workbook as it is, or with the cells queued that must be
recomputed on every pass. -/
def Begins (w v : Workbook) : Prop := v = w ∨ v = w.volatileCells.foldl markDirty w

theorem Begins.coherent {v : Workbook} (begins : w.Begins v) (coherent : w.Coherent) :
    v.Coherent ∧ SameText w v := by
  have marked := (marked_foldl_markDirty w.volatileCells w).1
  rcases begins with rfl | rfl
  · exact ⟨coherent, .refl v⟩
  · exact ⟨coherent.of_marked marked, marked.text⟩

theorem Begins.settledValue {v : Workbook} (begins : w.Begins v) (x : CellId) :
    v.settledValue x = w.settledValue x := by
  rcases begins with rfl | rfl
  · rfl
  · exact (marked_foldl_markDirty w.volatileCells w).1.settledValue x

/-- What holds of every value on record holds after an operation, as long as passes keep to it. -/
theorem Operation.holds (P : Value → Prop) (operation : Operation w w') (blank : P .blank)
    (wired : w.Wired) (holds : w.Holds P)
    (passes : ∀ v steps w', w.Begins v → v.drain steps = some w' → w'.Holds P) : w'.Holds P := by
  cases operation with
  | write id raw => exact holds.writeCell blank wired id raw
  | clear id => exact holds.clearCell blank wired id
  | addSheet added =>
    rcases addSheet_cases added with rfl | ⟨name, a, rfl, rfl⟩
    · exact holds
    · exact Holds.recompile blank _ holds (wired.of_records rfl rfl)
  | addFunction f order => exact Holds.recompile blank _ holds (wired.of_records rfl rfl)
  | drain drained => exact passes w _ _ (.inl rfl) drained
  | recalculate done => exact passes _ _ _ (.inr rfl) done
  | preview previewed =>
    obtain ⟨w₁, calls, drained, rfl⟩ := drain_of_preview previewed
    have settled : w₁.Holds P := passes w _ _ (.inl rfl) drained
    exact settled
  | clock now => exact holds

end Workbook

end Spreadsheet
