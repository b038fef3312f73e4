import Spreadsheet.Proofs.Workbook.Sound

/-!
# `Proofs/Recalculation/Settling.lean` — what settling does to the cells one by one

Three operations of a pass replace a record: a cell begins to be evaluated, it is evaluated, and the
members of a loop are settled. None changes anything written. What each leaves of the other records,
and whom it queues, is said here once; nothing after this file opens their definitions.

A cell is evaluated over the values on record, whatever they are worth. If its value changes, none
of its readers is left settled, itself included if it reads itself; if it does not, the old value
was the same (`evaluateCell_spec`). Settling a loop leaves no reader outside settled
(`settleLoop_spec`).

So the cases of a proof about a step are those of its outcome, and not those of the code: the same
value or another one, a member of the loop or not.
-/

set_option autoImplicit false

namespace Spreadsheet.Workbook

variable {w w' : Workbook} {id x : CellId} {c : Cell} {members : List CellId}

/-! ## One cell -/

theorem settle_of_cell? (hc : w.cell? id = some c) (value : Value) (state : CellState) :
    w.settle id value state =
      { w with
        slots := w.slots.insert id (.live { c with value := value, state := state })
        published := w.published.insert id value } := by
  unfold settle
  rw [hc]

theorem settle_of_none (hc : w.cell? id = none) (value : Value) (state : CellState) :
    w.settle id value state = w := by
  unfold settle
  rw [hc]

theorem sameText_settle (w : Workbook) (id : CellId) (value : Value) (state : CellState) :
    SameText w (w.settle id value state) := by
  cases hc : w.cell? id with
  | none =>
    rw [settle_of_none hc]
    exact .refl w
  | some c =>
    have slots : (w.settle id value state).slots =
      w.slots.insert id (.live { c with value := value, state := state }) := by
      rw [settle_of_cell? hc]
    refine sameText_of_insert_live hc slots rfl rfl ?_
    rw [settle_of_cell? hc]
    exact ⟨rfl, rfl, rfl, rfl, rfl⟩

theorem cell?_settle (w : Workbook) (id : CellId) (value : Value) (state : CellState) (x : CellId) :
    (w.settle id value state).cell? x =
      if x = id then (w.cell? id).map fun c => { c with value := value, state := state }
      else w.cell? x := by
  cases hc : w.cell? id with
  | none =>
    rw [settle_of_none hc]
    split
    next h =>
      subst h
      exact hc
    next => rfl
  | some c =>
    rw [settle_of_cell? hc,
      cell?_of_insert_live (w := w) (c := { c with value := value, state := state }) rfl]
    rfl

theorem pending_settle (w : Workbook) (id : CellId) (value : Value) (state : CellState) :
    (w.settle id value state).pending = w.pending := by
  cases hc : w.cell? id with
  | none => rw [settle_of_none hc]
  | some c => rw [settle_of_cell? hc]

theorem beginEvaluation_of_cell? (hc : w.cell? id = some c) :
    w.beginEvaluation id =
    { w with slots := w.slots.insert id (.live { c with state := .evaluating }) } := by
  unfold beginEvaluation
  rw [hc]

theorem slots_beginEvaluation (hc : w.cell? id = some c) :
    (w.beginEvaluation id).slots = w.slots.insert id (.live { c with state := .evaluating }) := by
  rw [beginEvaluation_of_cell? hc]

theorem sameText_beginEvaluation (hc : w.cell? id = some c) :
    SameText w (w.beginEvaluation id) := by
  refine sameText_of_insert_live hc (slots_beginEvaluation hc) rfl rfl ?_
  rw [beginEvaluation_of_cell? hc]
  exact ⟨rfl, rfl, rfl, rfl, rfl⟩

theorem cell?_beginEvaluation (hc : w.cell? id = some c) (x : CellId) :
    (w.beginEvaluation id).cell? x = if x = id then some { c with state := .evaluating }
    else w.cell? x := by
  rw [cell?_of_insert_live (slots_beginEvaluation hc)]

theorem pending_beginEvaluation (hc : w.cell? id = some c) :
    (w.beginEvaluation id).pending = w.pending := by
  rw [beginEvaluation_of_cell? hc]

theorem settledValue_beginEvaluation (hc : w.cell? id = some c) (x : CellId) :
    (w.beginEvaluation id).settledValue x = w.settledValue x := by
  unfold settledValue
  rw [cell?_beginEvaluation hc]
  by_cases hx : x = id
  · subst hx
    rw [if_pos rfl, hc]
  · rw [if_neg hx]

/-! ## Evaluation -/

/-- Queueing some cells leaves the others alone. -/
theorem cell?_foldl_markDirty {ids : List CellId} (hx : x ∉ ids) :
    (ids.foldl markDirty w).cell? x = w.cell? x := by
  induction ids generalizing w with
  | nil => rfl
  | cons id ids ih =>
    rw [List.foldl_cons, ih (fun h => hx (List.mem_cons_of_mem _ h))]
    rcases markDirty_cases w id with ⟨same, -⟩ | ⟨c, -, -, h⟩
    · rw [same]
    · have slots : (w.markDirty id).slots =
        w.slots.insert id (.live { c with state := .dirty }) := by rw [h]
      rw [cell?_of_insert_live slots, if_neg]
      rintro rfl
      exact hx List.mem_cons_self

/-- Evaluating a content changes no more than the counts of calls and evaluations. -/
theorem evaluateContent_snd (w : Workbook) (sheet : Nat) (content : Content) :
    SameText w (w.evaluateContent sheet content).2 ∧
      (w.evaluateContent sheet content).2.pending = w.pending ∧
      ∀ x, (w.evaluateContent sheet content).2.cell? x = w.cell? x := by
  cases content <;> exact ⟨⟨rfl, rfl, rfl, rfl, rfl, fun _ => rfl, fun _ => rfl⟩, rfl, fun _ => rfl⟩

/-- What state a cell is settled in with a value. -/
def stateOf (value : Value) : CellState := if value.isError then .error else .clean

theorem settled_stateOf (value : Value) : (stateOf value).Settled := by
  unfold stateOf
  split
  · exact CellState.settled_error
  · exact CellState.settled_clean

/-- A cell with its content's value. -/
def evaluatedCell (w : Workbook) (id : CellId) (c : Cell) : Cell :=
  { c with
    value := w.evaluated id.sheet c.compiled.content
    state := stateOf (w.evaluated id.sheet c.compiled.content) }

/-- Evaluating a cell puts it on what its content comes to (`s`), and queues no other cells than
those that read it: none if its value was the same before, or else all of them. -/
theorem evaluateCell_spec (hc : w.cell? id = some c) :
    ∃ s, SameText w s ∧ s.pending = w.pending ∧
      (∀ x, s.cell? x = if x = id then some (w.evaluatedCell id c) else w.cell? x) ∧
      Marked s (w.evaluateCell id) ∧
      (∀ x ∉ w.dependentsOf id, (w.evaluateCell id).cell? x = s.cell? x) ∧
      ((c.value.Same (w.evaluated id.sheet c.compiled.content) ∧
          ∀ x, (w.evaluateCell id).cell? x = s.cell? x) ∨
        (¬ c.value.Same (w.evaluated id.sheet c.compiled.content) ∧
          ∀ x ∈ w.dependentsOf id, ¬ (w.evaluateCell id).IsSettled x)) := by
  obtain ⟨text, pending, cell⟩ := evaluateContent_snd w id.sheet c.compiled.content
  have unfolded : w.evaluateCell id =
      let w₁ := (w.evaluateContent id.sheet c.compiled.content).2
      let s := w₁.settle id (w.evaluated id.sheet c.compiled.content)
        (stateOf (w.evaluated id.sheet c.compiled.content))
      if w₁.changes id (w.evaluated id.sheet c.compiled.content) then s.markDependentsDirty id
      else s := by
    unfold evaluateCell
    rw [hc]
    rfl
  -- The value is compared with the one on record, which evaluation does not touch.
  have changes : (w.evaluateContent id.sheet c.compiled.content).2.changes id
    (w.evaluated id.sheet c.compiled.content) =
      !c.value.same (w.evaluated id.sheet c.compiled.content) := by
    unfold Workbook.changes
    rw [cell, hc, Option.any_some]
  simp only [changes] at unfolded
  generalize (w.evaluateContent id.sheet c.compiled.content).2 = w₁ at text pending cell unfolded
  have settled := text.trans (sameText_settle w₁ id (w.evaluated id.sheet c.compiled.content)
    (stateOf (w.evaluated id.sheet c.compiled.content)))
  refine ⟨_, settled, (pending_settle _ _ _ _).trans pending, fun x => ?_, ?_⟩
  · rw [cell?_settle, cell, cell, hc]
    rfl
  · cases same : c.value.same (w.evaluated id.sheet c.compiled.content) with
    | true =>
      rw [unfolded, same]
      exact ⟨.refl _, fun _ _ => rfl, .inl ⟨Value.same_iff.1 same, fun _ => rfl⟩⟩
    | false =>
      rw [unfolded, same]
      obtain ⟨marked, unsettled⟩ :=
        marked_markDependentsDirty (w₁.settle id (w.evaluated id.sheet c.compiled.content)
        (stateOf (w.evaluated id.sheet c.compiled.content))) id
      have other : ¬ c.value.Same (w.evaluated id.sheet c.compiled.content) := fun h => by
        rw [Value.same_iff.2 h] at same
        cases same
      refine ⟨marked, fun x hx => cell?_foldl_markDirty ?_,
        .inr ⟨other, fun x hx => unsettled x ?_⟩⟩
      · rwa [Std.ExtTreeSet.mem_toList, settled.dependentsOf]
      · rwa [settled.dependentsOf]

theorem sameText_evaluateCell (hc : w.cell? id = some c) : SameText w (w.evaluateCell id) := by
  obtain ⟨s, text, -, -, marked, -⟩ := evaluateCell_spec hc
  exact text.trans marked.text

/-- A cell that does not read itself is settled by its evaluation. -/
theorem isSettled_evaluateCell (hc : w.cell? id = some c) (none : id ∉ w.dependentsOf id) :
    (w.evaluateCell id).IsSettled id := by
  obtain ⟨s, -, -, cell, -, others, -⟩ := evaluateCell_spec hc
  refine ⟨w.evaluatedCell id c, ?_, settled_stateOf _⟩
  rw [others id none, cell, if_pos rfl]

/-! ## Loops -/

/-- A cell with the error of a loop. -/
def cyclicCell (c : Cell) : Cell := { c with value := .error .cycle, state := .error }

theorem foldl_settle_spec (members : List CellId) (w : Workbook) :
    SameText w (members.foldl (fun w id => w.settle id (.error .cycle) .error) w) ∧
      (members.foldl (fun w id => w.settle id (.error .cycle) .error) w).pending = w.pending ∧
      ∀ x, (members.foldl (fun w id => w.settle id (.error .cycle) .error) w).cell? x =
        if x ∈ members then (w.cell? x).map cyclicCell else w.cell? x := by
  induction members generalizing w with
  | nil => exact ⟨.refl w, rfl, fun x => by simp⟩
  | cons id members ih =>
    obtain ⟨text, pending, cell⟩ := ih (w.settle id (.error .cycle) .error)
    refine ⟨(sameText_settle _ _ _ _).trans text, pending.trans (pending_settle _ _ _ _),
      fun x => ?_⟩
    rw [List.foldl_cons, cell, cell?_settle]
    by_cases hx : x = id
    · subst hx
      cases w.cell? x with
      | none => simp
      | some c => simp [cyclicCell]
    · simp [hx]

theorem marked_markReadersOutside (members : List CellId) (w : Workbook) (id : CellId) :
    Marked w (markReadersOutside members w id) ∧
      (∀ x ∈ w.dependentsOf id, x ∉ members → ¬ (markReadersOutside members w id).IsSettled x) ∧
      ∀ x ∈ members, (markReadersOutside members w id).cell? x = w.cell? x := by
  obtain ⟨marked, unsettled⟩ :=
    marked_foldl_markDirty ((w.dependentsOf id).toList.filter (· ∉ members)) w
  refine ⟨marked, fun x hx out => unsettled x ?_, fun x hx => cell?_foldl_markDirty ?_⟩
  · exact List.mem_filter.2 ⟨Std.ExtTreeSet.mem_toList.2 hx, by simpa using out⟩
  · intro mem
    simpa [hx] using (List.mem_filter.1 mem).2

theorem foldl_markReadersOutside_spec (members ids : List CellId) (w : Workbook) :
    Marked w (ids.foldl (markReadersOutside members) w) ∧
      (∀ id ∈ ids, ∀ x ∈ w.dependentsOf id, x ∉ members →
        ¬ (ids.foldl (markReadersOutside members) w).IsSettled x) ∧
      ∀ x ∈ members, (ids.foldl (markReadersOutside members) w).cell? x = w.cell? x := by
  induction ids generalizing w with
  | nil => exact ⟨.refl w, by simp, fun _ _ => rfl⟩
  | cons id ids ih =>
    obtain ⟨marked, unsettled, kept⟩ := marked_markReadersOutside members w id
    obtain ⟨marked', unsettled', kept'⟩ := ih (markReadersOutside members w id)
    refine ⟨marked.trans marked', fun m hm x hx out settled => ?_,
      fun x hx => (kept' x hx).trans (kept x hx)⟩
    rcases List.mem_cons.1 hm with rfl | hm
    · exact unsettled x hx out (marked'.isSettled settled)
    · refine unsettled' m hm x ?_ out settled
      rwa [marked.text.dependentsOf]

/-- Settling a loop puts its members on the error of a loop (`s`), and queues whoever reads one of
them from outside. -/
theorem settleLoop_spec (members : List CellId) (w : Workbook) :
    ∃ s, SameText w s ∧ s.pending = w.pending ∧
      (∀ x, s.cell? x = if x ∈ members then (w.cell? x).map cyclicCell else w.cell? x) ∧
      Marked s (w.settleLoop members) ∧
      (∀ m ∈ members, ∀ x ∈ w.dependentsOf m, x ∉ members → ¬ (w.settleLoop members).IsSettled x) ∧
      ∀ x ∈ members, (w.settleLoop members).cell? x = s.cell? x := by
  obtain ⟨text, pending, cell⟩ := foldl_settle_spec members w
  obtain ⟨marked, unsettled, kept⟩ := foldl_markReadersOutside_spec members members
    (members.foldl (fun w id => w.settle id (.error .cycle) .error) w)
  refine ⟨_, text, pending, cell, marked, fun m hm x hx out => unsettled m hm x ?_ out, kept⟩
  rwa [text.dependentsOf]

/-- Settling a loop leaves the other cells alone that read none of its members. -/
theorem cell?_settleLoop_of_no_reader (hx : x ∉ members)
    (none : ∀ m ∈ members, x ∉ w.dependentsOf m) :
    (w.settleLoop members).cell? x = w.cell? x := by
  have marking : ∀ (ids : List CellId) (v : Workbook), (∀ m ∈ ids, x ∉ v.dependentsOf m) →
      (ids.foldl (markReadersOutside members) v).cell? x = v.cell? x := by
    intro ids
    induction ids with
    | nil => exact fun _ _ => rfl
    | cons id ids ih =>
      intro v none
      have text := (marked_markReadersOutside members v id).1.text
      rw [List.foldl_cons, ih]
      · refine cell?_foldl_markDirty fun mem => none id List.mem_cons_self ?_
        exact Std.ExtTreeSet.mem_toList.1 (List.mem_filter.1 mem).1
      · intro m hm
        rw [text.dependentsOf]
        exact none m (List.mem_cons_of_mem _ hm)
  obtain ⟨text, -, cell⟩ := foldl_settle_spec members w
  unfold settleLoop
  rw [marking, cell, if_neg hx]
  intro m hm
  rw [text.dependentsOf]
  exact none m hm

theorem sameText_settleLoop (members : List CellId) (w : Workbook) :
    SameText w (w.settleLoop members) := by
  obtain ⟨s, text, -, -, marked, -⟩ := settleLoop_spec members w
  exact text.trans marked.text

end Spreadsheet.Workbook
