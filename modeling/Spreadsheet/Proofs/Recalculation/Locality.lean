import Spreadsheet.Proofs.Recalculation.Order
import Spreadsheet.Proofs.Recalculation.Published

/-!
# `Proofs/Recalculation/Locality.lean` — how far an edit reaches

An edit queues the cell, the cells that read it and those on a loop with it. The pass that follows
queues more, stacks what waits, and settles whole loops that it comes across. Yet in a settled
workbook nothing is touched that does not depend on the edited cell, whatever loops there are: a
cell that is open depends on it (`Stepped.spares`), and whatever a step does, it does to an open
cell, to the readers of one, or to the members of a loop through one and their readers.

Downstream, the pass stops where values stay what they are. Without loops, a cell that does not
read the edited one itself is evaluated only after the value of a cell that it reads has changed
(`Leads.changed_of_isOpen`).
-/

set_option autoImplicit false

namespace Spreadsheet

open Relation (ReflTransGen TransGen)

namespace Workbook

variable {w v : Workbook} {id x d : CellId} {raw : String}

/-! ## Edits -/

/-- An input is written to a cell, or the cell is cleared. -/
inductive CellEdit (id : CellId) (w : Workbook) : Workbook → Prop where
  | write (raw : String) : CellEdit id w (w.writeCell id raw)
  | clear : CellEdit id w (w.clearCell id)

/-- Before the loop that it closes is queued, a write leaves the cells that do not read the one
written. -/
theorem cell?_queued (wired : w.Wired) (hx : x ≠ id) (unread : ¬ (w.placed id raw).Reads x id) :
    (w.queued id raw).cell? x = w.cell? x := by
  have other : x ∉ [id] := by simpa using hx
  have own : ((w.placed id raw).markDirty id).cell? x = (w.placed id raw).cell? x :=
    cell?_foldl_markDirty other
  have apart : x ∉ (((w.placed id raw).markDirty id).dependentsOf id).toList := by
    rw [Std.ExtTreeSet.mem_toList, (marked_markDirty _ id).text.dependentsOf,
      mem_dependentsOf_placed wired]
    exact unread
  unfold queued markDependentsDirty
  rw [cell?_foldl_markDirty apart, own, cell?_placed, if_neg hx]

/-- What a write queues besides the cell and its readers lies on a loop with it. -/
theorem transGen_of_closedLoop? (wired : w.Wired) {members : List CellId}
    (found : w.closedLoop? id = some members) (hx : x ∈ members) :
    w.OnLoop id ∧ TransGen w.Reads x id := by
  unfold closedLoop? at found
  split at found
  · cases found
  · have loop := isLoop_of_loopOfDependents? wired found
    exact ⟨Relation.transGen_swap.1 (loop.transGen loop.start_mem loop.start_mem),
      Relation.transGen_swap.1 (loop.transGen loop.start_mem hx)⟩

namespace CellEdit

theorem operation (edit : CellEdit id w v) : Operation w v := by
  cases edit with
  | write raw => exact .write id raw
  | clear => exact .clear id

/-- Another cell is left alone, or it reads the edited one, or it lies on a loop with it. -/
theorem cell_cases (edit : CellEdit id w v) (wired : w.Wired) (hx : x ≠ id) :
    v.cell? x = w.cell? x ∨ v.Reads x id ∨ (v.OnLoop id ∧ TransGen v.Reads x id) := by
  cases edit with
  | write raw =>
    have first := (marked_queued w id raw).1
    have second : Marked (w.queued id raw) (w.writeCell id raw) := by
      rw [writeCell_eq]
      exact (marked_foldl_markDirty _ _).1
    rw [second.text.reads]
    by_cases reads : (w.queued id raw).Reads x id
    · exact .inr (.inl reads)
    -- Besides its readers a write marks the members of the loop that it closes, if it closes one.
    by_cases looped : x ∈ ((w.queued id raw).closedLoop? id).getD []
    · cases found : (w.queued id raw).closedLoop? id with
      | none =>
        rw [found] at looped
        cases looped
      | some members =>
        rw [found] at looped
        have loop :=
          transGen_of_closedLoop? ((wired_placed wired).of_sameText first.text) found looped
        unfold OnLoop at loop ⊢
        rw [second.text.reads]
        exact .inr (.inr loop)
    · left
      rw [first.text.reads] at reads
      rw [writeCell_eq, cell?_foldl_markDirty looped, cell?_queued wired hx reads]
  | clear =>
    by_cases h : w.slots.contains id = true
    · have text := (marked_clearCell wired id h).1.text
      rw [text.reads]
      by_cases reads : (w.removed id).Reads x id
      · exact .inr (.inl reads)
      have apart : x ∉ ((w.removed id).dependentsOf id).toList := by
        rwa [Std.ExtTreeSet.mem_toList, (wired_removed wired).mem_dependentsOf]
      left
      have unmarked : (w.clearCell id).cell? x = (w.removed id).cell? x := by
        rw [clearCell_eq h]
        split
        · exact cell?_foldl_markDirty apart
        · rfl
      rw [unmarked, cell?_removed, if_neg hx]
    · left
      unfold clearCell
      rw [if_neg h]

/-- Whom other cells read is not changed. -/
theorem reads_iff (edit : CellEdit id w v) (wired : w.Wired) (hx : x ≠ id) :
    v.Reads x d ↔ w.Reads x d := by
  have edited : v = w ∨ Edited id w v := by
    cases edit with
    | write raw => exact .inr (edited_writeCell wired id raw)
    | clear => exact edited_clearCell wired id
  rcases edited with rfl | edited
  · rfl
  · rcases edited.cell x hx with same | ⟨c, hc, -, queued, -⟩
    · exact reads_congr same
    · rw [reads_of_cell? hc, reads_of_cell? queued]

/-- Whether another cell depends on the edited one is the same before and after. -/
theorem transGen_iff (edit : CellEdit id w v) (wired : w.Wired) (hx : x ≠ id) :
    TransGen v.Reads x id ↔ TransGen w.Reads x id := by
  -- A way to the edited cell can be cut where it gets there first.
  have cut : ∀ {R R' : CellId → CellId → Prop}, (∀ a, a ≠ id → ∀ b, R a b → R' a b) →
      TransGen R x id → TransGen R' x id := by
    intro R R' sub way
    induction way using TransGen.head_induction_on with
    | single last => exact .single (sub _ hx _ last)
    | @head a b first _ ih =>
      by_cases hb : b = id
      · subst hb
        exact .single (sub a hx b first)
      · exact .head (sub a hx b first) (ih hb)
  exact ⟨cut fun a ha b => (edit.reads_iff wired ha).1,
    cut fun a ha b => (edit.reads_iff wired ha).2⟩

end CellEdit

/-- What is published of a cell is determined by what is on record of it. -/
theorem ShownAt.published_eq (shown : w.ShownAt x) (shown' : v.ShownAt x)
    (cell : v.cell? x = w.cell? x) :
    v.published[x]? = w.published[x]? := by
  ext value
  rw [shown.published, shown'.published, cell]

end Workbook

namespace Pass

open Workbook

variable {p q : Pass} {w : Workbook} {id x d : CellId}

/-- A pass that returns leads to what it returns. -/
theorem leads_of_run {steps : Nat} {p : Pass} (h : run steps p = some w) : p.Leads ⟨w, []⟩ := by
  induction steps generalizing p with
  | zero => cases h
  | succ steps ih =>
    rw [run] at h
    split at h
    next ended =>
      cases h
      obtain ⟨stack, -⟩ := over_of_step ended
      rw [← stack]
      exact .refl
    next q step => exact .head step (ih h)

/-! ## What does not depend on a cell -/

/-- Apart from a cell and what depends on it, the records are those of another workbook. -/
def Spares (w : Workbook) (id : CellId) (p : Pass) : Prop :=
  ∀ x, ¬ ReflTransGen p.book.Reads x id → p.book.cell? x = w.cell? x

/-- Only what depends on the cell is open, if nothing was in the other workbook. -/
theorem Spares.reaches (spares : p.Spares w id) (settled : w.AllSettled)
    (opened : p.book.IsOpen x) :
    ReflTransGen p.book.Reads x id := by
  by_contra apart
  obtain ⟨c, hc, unsettled⟩ := opened
  exact unsettled (settled x c ((spares x apart).symm.trans hc))

/-- Every step keeps to what depends on the cell. -/
theorem Stepped.spares (h : Stepped p q) (invariant : p.Invariant) (settled : w.AllSettled)
    (spares : p.Spares w id) :
    q.Spares w id := by
  -- Whatever a step works on is open, and what is open depends on the edited cell.
  have reaches : ∀ {y}, p.book.IsOpen y → ReflTransGen p.book.Reads y id := spares.reaches settled
  intro x apart
  rw [h.sameText.reads] at apart
  rw [← spares x apart]
  cases h with
  | fetch => rfl
  | drop => rfl
  | @evaluate b y stack state =>
    have way := reaches (isOpen_of_state? CellState.not_settled_evaluating state)
    have hx : x ≠ y := fun same => apart (same ▸ way)
    have unread : x ∉ b.dependentsOf y :=
      fun mem => apart (.head ((invariant.wired.mem_dependentsOf x y).1 mem) way)
    obtain ⟨c, hc, -⟩ := state?_eq_some.1 state
    obtain ⟨s, -, -, cell, -, others, -⟩ := evaluateCell_spec hc
    show (b.evaluateCell y).cell? x = b.cell? x
    rw [others x unread, cell, if_neg hx]
  | @expand b y stack pushed state pushes all =>
    have way := reaches (isOpen_of_state? CellState.not_settled_dirty state)
    have hx : x ≠ y := fun same => apart (same ▸ way)
    obtain ⟨c, hc, -⟩ := state?_eq_some.1 state
    show (b.beginEvaluation y).cell? x = b.cell? x
    rw [cell?_beginEvaluation hc, if_neg hx]
  | @close b y stack pushed members state pushes loop =>
    have way := reaches (isOpen_of_state? CellState.not_settled_dirty state)
    have hx : x ≠ y := fun same => apart (same ▸ way)
    obtain ⟨c, hc, -⟩ := state?_eq_some.1 state
    -- The loop goes through the cell that is expanded, so its members depend on the edited cell
    -- as well.
    obtain ⟨start, found, mem⟩ := isLoop_of_close hc invariant.tracked loop
    have ways : ∀ m ∈ members, ReflTransGen b.Reads m id :=
      fun m hm => (found.transGen hm mem).to_reflTransGen.trans way
    have text := sameText_beginEvaluation hc
    have unread : ∀ m ∈ members, x ∉ (b.beginEvaluation y).dependentsOf m := by
      intro m hm reads
      rw [text.dependentsOf] at reads
      exact apart (.head ((invariant.wired.mem_dependentsOf x m).1 reads) (ways m hm))
    show ((b.beginEvaluation y).settleLoop members).cell? x = b.cell? x
    rw [cell?_settleLoop_of_no_reader (fun hm => apart (ways x hm)) unread,
      cell?_beginEvaluation hc, if_neg hx]

theorem Leads.spares (leads : p.Leads q) (invariant : p.Invariant) (settled : w.AllSettled)
    (spares : p.Spares w id) :
    q.Spares w id :=
  (leads.keeps (I := fun p => p.Invariant ∧ p.Spares w id)
    (fun step kept => ⟨step.invariant kept.1, step.spares kept.1 settled kept.2⟩)
    ⟨invariant, spares⟩).2

/-! ## Where values stay -/

/-- Between two moments of a pass, the value of a cell changed when it was evaluated. -/
def Changed (p q : Pass) (d : CellId) : Prop :=
  ∃ m m', p.Leads m ∧ m.Evaluates d ∧ m.step = some m' ∧ m'.Leads q ∧
    ¬ (m.book.settledValue d).Same (m'.book.settledValue d)

theorem Changed.step (changed : Changed p q d) {q' : Pass} (step : q.step = some q') :
    Changed p q' d := by
  obtain ⟨m, m', before, evaluates, next, after, other⟩ := changed
  exact ⟨m, m', before, evaluates, next, .tail after step, other⟩

/-- An evaluation that queues a settled cell has changed the value. -/
theorem Stepped.changes (h : Stepped p q) (evaluates : p.Evaluates d) (settled : p.book.IsSettled x)
    (queued : q.book.state? x = some .dirty) :
    ¬ (p.book.settledValue d).Same (q.book.settledValue d) := by
  obtain ⟨top, state⟩ := evaluates
  cases h with
  | fetch => cases top
  | expand => cases top
  | close => cases top
  | drop idle =>
    cases top
    exact absurd state idle
  -- An evaluation either leaves the value and all readers, or changes it and leaves no reader
  -- settled.
  | @evaluate b _ stack _ =>
    cases top
    obtain ⟨c, hc, -⟩ := state?_eq_some.1 state
    obtain ⟨s, -, -, cell, marked, -, rest⟩ := evaluateCell_spec hc
    have before : b.settledValue d = c.value := settledValue_of_cell? hc
    have after : (b.evaluateCell d).settledValue d = b.evaluated d.sheet c.compiled.content := by
      rw [marked.settledValue,
        settledValue_of_cell? (c := b.evaluatedCell d c) (by rw [cell, if_pos rfl])]
      rfl
    show ¬ (b.settledValue d).Same ((b.evaluateCell d).settledValue d)
    rw [before, after]
    rcases rest with ⟨-, unmarked⟩ | ⟨other, -⟩
    · -- If it had stayed, the cell would have been left alone.
      refine absurd queued fun dirty => not_isSettled_of_state? CellState.not_settled_dirty dirty ?_
      obtain ⟨c', hc', settled⟩ := settled
      by_cases hx : x = d
      · subst hx
        exact ⟨_, (unmarked x).trans (by rw [cell, if_pos rfl]), settled_stateOf _⟩
      · exact ⟨c', (unmarked x).trans (by rw [cell, if_neg hx, hc']), settled⟩
    · exact other

/-- What becomes open during a pass reads a cell whose value has changed. -/
theorem Leads.changed_of_isOpen (leads : p.Leads q) (invariant : p.Invariant)
    (acyclic : p.book.Acyclic) (closed : ¬ p.book.IsOpen x) (opened : q.book.IsOpen x) :
    ∃ d, q.book.Reads x d ∧ Changed p q d := by
  induction leads with
  | refl => exact absurd opened closed
  | @tail m q before next ih =>
    have step := stepped_of_step next
    have before : p.Leads m := before
    have invariant := before.keeps Stepped.invariant invariant
    have acyclic : m.book.Acyclic :=
      before.keeps (fun step => Acyclic.of_sameText step.sameText) acyclic
    rw [step.sameText.reads]
    rcases step.open_cases invariant acyclic opened with before_ |
      ⟨e, evaluates, reads, settled, dirty⟩
    · obtain ⟨d, reads, changed⟩ := ih before_
      exact ⟨d, reads, changed.step next⟩
    · exact ⟨e, reads, m, q, before, evaluates, next, .refl, step.changes evaluates settled dirty⟩

end Pass

namespace Workbook

variable {w v : Workbook} {id x : CellId}

/-- A workbook in which nothing waits is settled. -/
theorem Coherent.allSettled (coherent : w.Coherent) (none : w.pending = []) : w.AllSettled := by
  intro x c hc
  rcases coherent.waits x c hc with settled | ⟨-, pending⟩
  · exact settled
  · rw [none] at pending
    cases pending

/-- An edit itself touches nothing but the cell and what depends on it. -/
theorem CellEdit.spares (edit : CellEdit id w v) (wired : w.Wired) : Pass.Spares w id ⟨v, []⟩ := by
  intro x apart
  have hx : x ≠ id := by
    rintro rfl
    exact apart .refl
  rcases edit.cell_cases wired hx with same | reads | ⟨-, way⟩
  · exact same
  · exact absurd (.single reads) apart
  · exact absurd way.to_reflTransGen apart

/-- The passes that follow an edit keep what the cells read. -/
theorem sameText_of_leads {p : Pass} (leads : Pass.Leads ⟨v, []⟩ p) : SameText v p.book :=
  leads.keeps (I := fun p => SameText v p.book)
    (fun step text => text.trans step.sameText) (.refl v)

/-- A cell that does not depend on the edited one is never evaluated, and what is on record of it
stays. -/
theorem CellEdit.spared (edit : CellEdit id w v) (reachable : w.Reachable) (none : w.pending = [])
    (hx : x ≠ id) (apart : ¬ TransGen v.Reads x id) {p : Pass} (leads : Pass.Leads ⟨v, []⟩ p) :
    ¬ p.Evaluates x ∧ p.book.cell? x = w.cell? x ∧ p.book.published[x]? = w.published[x]? := by
  have coherent := reachable.coherent
  have settled := coherent.allSettled none
  have invariant : Pass.Invariant ⟨v, []⟩ := (edit.operation.coherent coherent).invariant
  have spares := leads.spares invariant settled (edit.spares coherent.wired)
  have off : ¬ ReflTransGen p.book.Reads x id := by
    rw [(sameText_of_leads leads).reads, Relation.reflTransGen_iff_eq_or_transGen]
    rintro (same | way)
    · exact hx same.symm
    · exact apart way
  have cell := spares x off
  have shown : p.book.ShownAt x := leads.keeps (I := fun p => p.book.ShownAt x) Pass.Stepped.shownAt
    (edit.operation.shownAt (reachable.shownAt x))
  exact ⟨fun evaluates => off (spares.reaches settled evaluates.isOpen), cell,
    (reachable.shownAt x).published_eq shown cell⟩

/-- Without loops, a cell that an edit does not queue is evaluated only after a value that it
reads has changed. -/
theorem CellEdit.changed_of_evaluates (edit : CellEdit id w v) (coherent : w.Coherent)
    (none : w.pending = []) (acyclic : v.Acyclic) (hx : x ≠ id) (unread : ¬ v.Reads x id) {p : Pass}
    (leads : Pass.Leads ⟨v, []⟩ p) (evaluates : p.Evaluates x) :
    ∃ d, v.Reads x d ∧ Pass.Changed ⟨v, []⟩ p d := by
  have untouched : v.cell? x = w.cell? x := by
    rcases edit.cell_cases coherent.wired hx with same | reads | ⟨loop, -⟩
    · exact same
    · exact absurd reads unread
    · exact absurd loop (acyclic id)
  have closed : ¬ v.IsOpen x := by
    rintro ⟨c, hc, unsettled⟩
    exact unsettled (coherent.allSettled none x c (untouched.symm.trans hc))
  rw [← (sameText_of_leads leads).reads]
  exact leads.changed_of_isOpen
    (edit.operation.coherent coherent).invariant acyclic closed evaluates.isOpen

/-- **Edits have local effect.** In a workbook where nothing waits, one cell is written or
cleared, and the pass that follows goes on for a while, or returns. Any other cell that does not
depend on the edited one is never evaluated, and what is on record and what is published of it
stays what it was; this is so for all ways in which cells can read each other. If there are no
loops, then a cell other than the edited one and its readers is evaluated only after the value of
some cell that it reads has changed. -/
theorem edits_have_local_effect (reachable : w.Reachable) (none : w.pending = [])
    (edit : CellEdit id w v) :
    (∀ x, x ≠ id → (TransGen v.Reads x id ↔ TransGen w.Reads x id)) ∧
      (∀ x, x ≠ id → ¬ TransGen v.Reads x id →
        (∀ p, Pass.Leads ⟨v, []⟩ p → ¬ p.Evaluates x ∧ p.book.cell? x = w.cell? x ∧
          p.book.published[x]? = w.published[x]?) ∧
        ∀ steps w', v.drain steps = some w' →
        w'.cell? x = w.cell? x ∧ w'.published[x]? = w.published[x]?) ∧
      (v.Acyclic → ∀ p x, Pass.Leads ⟨v, []⟩ p → p.Evaluates x → x ≠ id → ¬ v.Reads x id →
        ∃ d, v.Reads x d ∧ Pass.Changed ⟨v, []⟩ p d) := by
  have coherent := reachable.coherent
  refine ⟨fun x hx => edit.transGen_iff coherent.wired hx,
    fun x hx apart => ⟨fun p leads => ?_, ?_⟩, ?_⟩
  · exact edit.spared reachable none hx apart leads
  · intro steps w' drained
    exact (edit.spared reachable none hx apart (Pass.leads_of_run drained)).2
  · intro acyclic p x leads evaluates hx unread
    exact edit.changed_of_evaluates coherent none acyclic hx unread leads evaluates

/-- In a chain of three cells the first is written anew: the third is evaluated because the second
has changed, and a fourth cell, which reads a fifth, is left alone. -/
theorem edits_have_local_effect_of_chain :
    ∃ (w v w' : Workbook) (p : Pass), w.Reachable ∧ w.pending = [] ∧ CellEdit ⟨0, ⟨0, 0⟩⟩ w v ∧
      v.drain 60 = some w' ∧
      w'.cell? ⟨0, ⟨0, 3⟩⟩ = w.cell? ⟨0, ⟨0, 3⟩⟩ ∧ Pass.Leads ⟨v, []⟩ p ∧ p.Evaluates ⟨0, ⟨0, 2⟩⟩ ∧
      ¬ p.Evaluates ⟨0, ⟨0, 3⟩⟩ ∧ ∃ d, v.Reads ⟨0, ⟨0, 2⟩⟩ d ∧ Pass.Changed ⟨v, []⟩ p d := by
  let w₁ := (((((create Settings.default ⟨⟨2000, 1, 1⟩, 0⟩ 0).writeCell ⟨0, ⟨0, 0⟩⟩ "1").writeCell
    ⟨0, ⟨0, 1⟩⟩
    "=A1").writeCell ⟨0, ⟨0, 2⟩⟩ "=B1").writeCell ⟨0, ⟨0, 4⟩⟩ "5").writeCell ⟨0, ⟨0, 3⟩⟩ "=E1"
  have reachable₁ : w₁.Reachable :=
    (((((reachable_create _ _ _ _).write _ _).write _ _).write _ _).write _ _).write _ _
  let w := (w₁.drain 60).get (by decide +kernel)
  have drained₁ : w₁.drain 60 = some w := (Option.some_get _).symm
  have reachable : w.Reachable := reachable₁.drain drained₁
  let v := w.writeCell ⟨0, ⟨0, 0⟩⟩ "2"
  have edit : CellEdit ⟨0, ⟨0, 0⟩⟩ w v := .write "2"
  let w' := (v.drain 60).get (by decide +kernel)
  have drained : v.drain 60 = some w' := (Option.some_get _).symm
  let p := (Pass.after 7 ⟨v, []⟩).get (by decide +kernel)
  have leads : Pass.Leads ⟨v, []⟩ p := Pass.leads_of_after (Option.some_get _).symm
  obtain ⟨evaluates, first, fourth, fifth, acyclic⟩ : p.Evaluates ⟨0, ⟨0, 2⟩⟩ ∧
      (v.precedentsOf ⟨0, ⟨0, 2⟩⟩).contains ⟨0, ⟨0, 0⟩⟩ = false ∧
      (v.precedentsOf ⟨0, ⟨0, 3⟩⟩).toList = [⟨0, ⟨0, 4⟩⟩] ∧ v.readers.contains ⟨0, ⟨0, 4⟩⟩ = false ∧
      v.Acyclic := by
    decide +kernel
  have unread : ¬ v.Reads ⟨0, ⟨0, 2⟩⟩ ⟨0, ⟨0, 0⟩⟩ :=
    fun reads => Bool.false_ne_true (first.symm.trans reads)
  -- The fourth cell reads only the fifth, which reads nothing.
  have apart : ¬ TransGen v.Reads ⟨0, ⟨0, 3⟩⟩ ⟨0, ⟨0, 0⟩⟩ := by
    intro way
    obtain ⟨d, reads, rest⟩ := TransGen.head'_iff.1 way
    have listed : d ∈ (v.precedentsOf ⟨0, ⟨0, 3⟩⟩).toList := Std.ExtTreeSet.mem_toList.2 reads
    rw [fourth, List.mem_singleton] at listed
    subst listed
    rcases Relation.reflTransGen_iff_eq_or_transGen.1 rest with same | way
    · cases same
    · exact Bool.false_ne_true (fifth.symm.trans (mem_readers_of_transGen way))
  have none : w.pending = [] := pending_of_drain drained₁
  obtain ⟨-, spared, downstream⟩ := edits_have_local_effect reachable none edit
  obtain ⟨moments, returns⟩ := spared _ (by decide) apart
  exact ⟨w, v, w', p, reachable, none, edit, drained, (returns 60 w' drained).1, leads, evaluates,
    (moments p leads).1, downstream acyclic p _ leads evaluates (by decide) unread⟩

end Workbook

end Spreadsheet
