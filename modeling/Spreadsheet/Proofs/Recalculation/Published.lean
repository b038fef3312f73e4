import Spreadsheet.Proofs.Workbook.Session

/-!
# `Proofs/Recalculation/Published.lean` — what is published of the cells

Others see the published values while cells wait. A value is published when a cell is settled on
it, and withdrawn when the cell is queued, cleared or written. That nothing else touches either is
proved for one cell at a time (`ShownAt`), of every operation and of every step of a pass, and
supposes nothing: not even that what is on record of the readers is right.

That no cell is left behind in the state of being evaluated, or waiting without being queued,
comes from the account that a pass keeps of them (`Pass.Tracked`). Loops make no difference to
either.

The two parts are put together for sessions, which are what can be done from outside; there every
call that settles cells begins and ends between two passes.
-/

set_option autoImplicit false

namespace Spreadsheet

namespace Workbook

variable {w w' : Workbook} {id x : CellId} {c : Cell}

/-- The value of a cell is published exactly while it is settled, and it is settled as an error
exactly if that value is one. -/
structure ShownAt (w : Workbook) (x : CellId) : Prop where
  published (v : Value) : w.published[x]? = some v ↔
    ∃ c, w.cell? x = some c ∧ c.state.Settled ∧ c.value = v
  state (c : Cell) : w.cell? x = some c → c.state.Settled →
  (c.state = .error ↔ c.value.isError = true)

namespace ShownAt

theorem congr (h : w.ShownAt x) (cell : w'.cell? x = w.cell? x)
    (published : w'.published[x]? = w.published[x]?) :
    w'.ShownAt x where
  published v := by
    rw [published, cell]
    exact h.published v
  state c hc := h.state c (cell ▸ hc)

theorem of_unsettled (withdrawn : w.published[x]? = none) (unsettled : ¬ w.IsSettled x) :
    w.ShownAt x where
  published v := by
    rw [withdrawn]
    refine iff_of_false nofun ?_
    rintro ⟨c, hc, settled, -⟩
    exact unsettled ⟨c, hc, settled⟩
  state c hc settled := absurd ⟨c, hc, settled⟩ unsettled

theorem withdrawn (h : w.ShownAt x) (unsettled : ¬ w.IsSettled x) : w.published[x]? = none := by
  rw [Option.eq_none_iff_forall_not_mem]
  intro v hv
  obtain ⟨c, hc, settled, -⟩ := (h.published v).1 hv
  exact unsettled ⟨c, hc, settled⟩

theorem of_settled (hc : w.cell? x = some c) (published : w.published[x]? = some c.value)
    (settled : c.state.Settled) (state : c.state = .error ↔ c.value.isError = true) :
    w.ShownAt x where
  published v := by
    rw [published, hc]
    simp [settled]
  state c' hc' _ := by
    rw [hc] at hc'
    cases hc'
    exact state

/-! ### Queueing -/

/-- Whatever was published of a settled cell is withdrawn when it is queued. -/
theorem markDirty_self (settled : w.IsSettled x) : (w.markDirty x).ShownAt x := by
  refine of_unsettled ?_ (not_isSettled_markDirty w x)
  rcases markDirty_cases w x with ⟨-, unsettled⟩ | ⟨c, -, -, eq⟩
  · exact absurd settled unsettled
  · rw [eq, getElem?_erase_cell, if_pos rfl]

theorem markDirty (h : w.ShownAt x) (id : CellId) : (w.markDirty id).ShownAt x := by
  rcases markDirty_cases w id with ⟨same, -⟩ | ⟨c, hc, settled, eq⟩
  · rwa [same]
  · by_cases hx : x = id
    · subst hx
      exact markDirty_self ⟨c, hc, settled⟩
    · refine h.congr ?_ ?_
      · rw [cell?_of_insert_live (w := w) (c := { c with state := .dirty }) (by rw [eq]), if_neg hx]
      · rw [eq, getElem?_erase_cell, if_neg hx]

theorem foldl_markDirty (h : w.ShownAt x) (ids : List CellId) :
    (ids.foldl Workbook.markDirty w).ShownAt x :=
  List.foldlRecOn (motive := (ShownAt · x)) ids _ h fun _ h id _ => h.markDirty id

end ShownAt

/-! ## Edits -/

theorem published_dropDependent (reader : CellId) (w : Workbook) (id : CellId) :
    (dropDependent reader w id).published = w.published := by
  rcases dropDependent_cases reader w id with ⟨-, eq⟩ | ⟨_, -, -, eq⟩ | ⟨_, -, -, eq⟩ <;> rw [eq]

theorem published_unlink (w : Workbook) (id : CellId) : (w.unlink id).published = w.published :=
  List.foldlRecOn (motive := fun v => v.published = w.published) _ _ rfl
    fun v same d _ => (published_dropDependent id v d).trans same

theorem published_placed (w : Workbook) (id : CellId) (raw : String) :
    (w.placed id raw).published = w.published := by
  unfold placed link
  exact published_unlink w id

namespace ShownAt

theorem writeCell (h : w.ShownAt x) (id : CellId) (raw : String) :
    (w.writeCell id raw).ShownAt x := by
  -- The cell itself is put down as settled first, while nothing or an old value is published of it.
  have queued : ((w.placed id raw).markDirty id).ShownAt x := by
    by_cases hx : x = id
    · subst hx
      refine markDirty_self ⟨⟨raw, w.compile x.sheet raw, w.settledValue x, .clean⟩, ?_,
        CellState.settled_clean⟩
      rw [cell?_placed, if_pos rfl]
    · have placed : (w.placed id raw).ShownAt x := by
        refine h.congr ?_ ?_
        · rw [cell?_placed, if_neg hx]
        · rw [published_placed]
      exact placed.markDirty id
  rw [writeCell_eq]
  exact (queued.foldl_markDirty _).foldl_markDirty _

theorem clearCell (h : w.ShownAt x) (id : CellId) : (w.clearCell id).ShownAt x := by
  have removed : (w.removed id).ShownAt x := by
    have published : (w.removed id).published = w.published.erase id := by
      unfold Workbook.removed
      rw [published_unlink]
    by_cases hx : x = id
    · subst hx
      refine of_unsettled ?_ ?_
      · rw [published, getElem?_erase_cell, if_pos rfl]
      · rintro ⟨c, hc, -⟩
        rw [cell?_removed, if_pos rfl] at hc
        cases hc
    · refine h.congr ?_ ?_
      · rw [cell?_removed, if_neg hx]
      · rw [published, getElem?_erase_cell, if_neg hx]
  by_cases on : w.slots.contains id = true
  · rw [clearCell_eq on]
    split
    · exact removed.foldl_markDirty _
    · exact removed
  · unfold Workbook.clearCell
    rwa [if_neg on]

theorem recompile (h : w.ShownAt x) (id : CellId) : (w.recompile id).ShownAt x := by
  unfold Workbook.recompile
  split
  · exact h.writeCell id _
  · exact h

theorem foldl_recompile (h : w.ShownAt x) (ids : List CellId) :
    (ids.foldl Workbook.recompile w).ShownAt x :=
  List.foldlRecOn (motive := (ShownAt · x)) ids _ h fun _ h id _ => h.recompile id

/-! ### Settling -/

theorem settle (h : w.ShownAt x) (id : CellId) {value : Value} {state : CellState}
    (settled : state.Settled) (agree : state = .error ↔ value.isError = true) :
    (w.settle id value state).ShownAt x := by
  cases hc : w.cell? id with
  | none =>
    rw [settle_of_none hc]
    exact h
  | some c =>
    by_cases hx : x = id
    · subst hx
      refine of_settled (c := { c with value := value, state := state }) ?_ ?_ settled agree
      · rw [cell?_settle, if_pos rfl, hc]
        rfl
      · rw [settle_of_cell? hc, getElem?_insert_cell, if_pos rfl]
    · refine h.congr ?_ ?_
      · rw [cell?_settle, if_neg hx]
      · rw [settle_of_cell? hc, getElem?_insert_cell, if_neg hx]

theorem evaluateCell (h : w.ShownAt x) (id : CellId) : (w.evaluateCell id).ShownAt x := by
  have agree (value : Value) : stateOf value = .error ↔ value.isError = true := by
    unfold stateOf
    split <;> simp [*]
  unfold Workbook.evaluateCell
  split
  next c hc =>
    have evaluated : (w.evaluateContent id.sheet c.compiled.content).2.ShownAt x := by
      refine h.congr ((evaluateContent_snd w id.sheet c.compiled.content).2.2 x) ?_
      cases c.compiled.content <;> rfl
    have settled := evaluated.settle id (settled_stateOf _)
      (agree (w.evaluateContent id.sheet c.compiled.content).1)
    dsimp only
    split
    · exact settled.foldl_markDirty _
    · exact settled
  next => exact h

theorem settleLoop (h : w.ShownAt x) (members : List CellId) :
    (w.settleLoop members).ShownAt x := by
  have settled : (members.foldl (fun w id => w.settle id (.error .cycle) .error) w).ShownAt x :=
    List.foldlRecOn (motive := (ShownAt · x)) members _ h fun _ h id _ =>
      h.settle id CellState.settled_error (iff_of_true rfl rfl)
  exact List.foldlRecOn (motive := (ShownAt · x)) members _ settled fun _ h _ _ =>
    h.foldl_markDirty _

/-- Nothing was published of a cell that waited. -/
theorem beginEvaluation (h : w.ShownAt x) (state : w.state? id = some .dirty) :
    (w.beginEvaluation id).ShownAt x := by
  obtain ⟨c, hc, dirty⟩ := state?_eq_some.1 state
  have published : (w.beginEvaluation id).published = w.published := by
    rw [beginEvaluation_of_cell? hc]
  by_cases hx : x = id
  · subst hx
    refine of_unsettled ?_ (not_isSettled_of_state? CellState.not_settled_evaluating ?_)
    · rw [published]
      exact h.withdrawn (not_isSettled_of_state? CellState.not_settled_dirty state)
    · rw [Pass.state?_beginEvaluation hc, if_pos rfl]
  · exact h.congr (by rw [cell?_beginEvaluation hc, if_neg hx]) (by rw [published])

end ShownAt

end Workbook

/-! ## Runs -/

theorem Pass.Stepped.shownAt {p q : Pass} {x : CellId} (h : Stepped p q)
    (shown : p.book.ShownAt x) :
    q.book.ShownAt x := by
  cases h with
  | fetch => exact shown.congr rfl rfl
  | evaluate => exact shown.evaluateCell _
  | drop => exact shown
  | expand state => exact shown.beginEvaluation state
  | close state => exact (shown.beginEvaluation state).settleLoop _

namespace Workbook

variable {w w' : Workbook} {x : CellId}

theorem ShownAt.drain (h : w.ShownAt x) {steps : Nat} (drained : w.drain steps = some w') :
    w'.ShownAt x :=
  (Pass.run_keeps (I := fun p => p.book.ShownAt x) Pass.Stepped.shownAt drained h).1

theorem Operation.shownAt (operation : Operation w w') (h : w.ShownAt x) : w'.ShownAt x := by
  cases operation with
  | write id raw => exact h.writeCell id raw
  | clear id => exact h.clearCell id
  | addSheet added =>
    rcases addSheet_cases added with rfl | ⟨name, a, rfl, rfl⟩
    · exact h
    · exact (h.congr rfl rfl : ShownAt { w with sheets := w.sheets ++ [name] } x).foldl_recompile _
  | addFunction f order =>
    let registered : Workbook :=
      { w with registry := w.registry.insert f, calls := w.calls.reset f.name }
    have added : registered.ShownAt x := h.congr rfl rfl
    exact added.foldl_recompile _
  | drain drained => exact h.drain drained
  | recalculate done => exact (h.foldl_markDirty w.volatileCells).drain done
  | preview previewed =>
    obtain ⟨w₁, calls, drained, rfl⟩ := drain_of_preview previewed
    exact (h.drain drained).congr rfl rfl
  | clock now => exact h.congr rfl rfl

theorem Reachable.shownAt (reachable : w.Reachable) (x : CellId) : w.ShownAt x := by
  induction reachable with
  | create settings now seed engine =>
    refine .of_unsettled ?_ ?_
    · simp [create]
    · rintro ⟨c, hc, -⟩
      rw [cell?_create] at hc
      cases hc
  | operation _ operation _ ih => exact operation.shownAt ih

/-- A tombstone is settled, so a position that is not settled has a cell. -/
theorem cell?_of_recordedState? {s : CellState} (h : w.recordedState? x = some s)
    (unsettled : ¬ s.Settled) :
    ∃ c, w.cell? x = some c ∧ c.state = s := by
  unfold recordedState? at h
  split at h
  next c hc =>
    cases h
    exact ⟨c, cell?_eq_some.2 hc, rfl⟩
  next =>
    cases h
    exact absurd CellState.settled_clean unsettled
  next => cases h

/-- **State, queue and what is published agree.** Whatever calls were made, and whatever loops
there are: no cell is being evaluated; a cell that waits is queued; a value is published exactly
of the cells that are settled, and it is theirs; and a cell is settled as an error exactly if its
value is one. A call that settles cells leaves none waiting, and nothing in the queue. -/
theorem queue_and_published_agree (session : Session w) :
    (∀ x, w.recordedState? x ≠ some .evaluating) ∧
      (∀ x, w.recordedState? x = some .dirty → x ∈ w.pending) ∧
      (∀ (x : CellId) (v : Value), w.published[x]? = some v ↔
        ∃ c, w.cell? x = some c ∧ (c.state = .clean ∨ c.state = .error) ∧ c.value = v) ∧
      (∀ x c, w.cell? x = some c → (c.state = .clean ∨ c.state = .error) →
        (c.state = .error ↔ c.value.isError = true)) ∧
      ∀ w', SettlingCall w w' → w'.pending = [] ∧ ∀ x, w'.recordedState? x ≠ some .dirty := by
  have reachable := session.reachable
  have coherent : w.Coherent := reachable.coherent
  have shown := reachable.shownAt
  refine ⟨fun x evaluating => ?_, fun x dirty => ?_, fun x => (shown x).published,
    fun x => (shown x).state, fun w' call => ?_⟩
  · obtain ⟨c, hc, state⟩ := cell?_of_recordedState? evaluating CellState.not_settled_evaluating
    rcases coherent.waits x c hc with settled | ⟨dirty, -⟩
    · rw [state] at settled
      exact CellState.not_settled_evaluating settled
    · rw [state] at dirty
      cases dirty
  · obtain ⟨c, hc, state⟩ := cell?_of_recordedState? dirty CellState.not_settled_dirty
    rcases coherent.waits x c hc with settled | ⟨-, pending⟩
    · rw [state] at settled
      exact absurd settled CellState.not_settled_dirty
    · exact pending
  -- Each call that settles cells ends with a pass, and after a pass all cells are settled.
  · obtain ⟨v, w₁, steps, calls, coherent, drained, rfl⟩ := call.drained coherent
    have pending : w₁.pending = [] := pending_of_drain drained
    refine ⟨pending, fun x dirty => ?_⟩
    obtain ⟨c, hc, state⟩ := cell?_of_recordedState? dirty CellState.not_settled_dirty
    have settled : c.state.Settled := (coherent.drain drained).2.1 x c hc
    rw [state] at settled
    exact CellState.not_settled_dirty settled

/-- Two cells that read each other wait after they were written, and are settled when one of them
is asked for. -/
theorem queue_and_published_agree_of_pair :
    ∃ w w' : Workbook, Session w ∧ ⟨0, ⟨0, 1⟩⟩ ∈ w.pending ∧ SettlingCall w w' ∧ w'.pending = [] ∧
      ∃ c, w'.cell? ⟨0, ⟨0, 1⟩⟩ = some c ∧ w'.published[(⟨0, ⟨0, 1⟩⟩ : CellId)]? = some c.value ∧
        c.value.isError = true := by
  let w₀ := create Settings.default ⟨⟨2000, 1, 1⟩, 0⟩ 0
  let w₁ := (w₀.write "A1" "=B1").toOption.get (by decide +kernel)
  let w := (w₁.write "B1" "=A1").toOption.get (by decide +kernel)
  let answer := (w.value 60 "A1").toOption.get (by decide +kernel)
  have written₁ : w₀.write "A1" "=B1" = .ok w₁ := eq_ok_get _ _
  have written : w₁.write "B1" "=A1" = .ok w := eq_ok_get _ _
  have session : Session w := .call (.call (.create _ _ _ _) (.write written₁)) (.write written)
  have call : SettlingCall w answer.2 := .value_of_answer (eq_ok_get _ _)
  obtain ⟨-, queued, -, -, settles⟩ := queue_and_published_agree session
  obtain ⟨-, -, published, agree, -⟩ := queue_and_published_agree (.call session (.settling call))
  have waits : w.recordedState? ⟨0, ⟨0, 1⟩⟩ = some .dirty := by decide +kernel
  have state : answer.2.state? ⟨0, ⟨0, 1⟩⟩ = some .error := by decide +kernel
  obtain ⟨c, hc, error⟩ := state?_eq_some.1 state
  have shown := (published _ _).2 ⟨c, hc, .inr error, rfl⟩
  have value := (agree _ c hc (.inr error)).1 error
  exact ⟨w, answer.2, session, queued _ waits, call, (settles _ call).1, c, hc, shown, value⟩

end Workbook

end Spreadsheet
