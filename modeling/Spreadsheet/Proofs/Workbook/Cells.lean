import Mathlib.Logic.Relation
import Spreadsheet.Workbook.Recalculation

/-!
# `Proofs/Workbook/Cells.lean` — what operations do to the cells one by one

All that is proved of workbooks is proved from what each operation does to the record of one cell.
Two relations between workbooks collect what most operations have in common:

* `SameText` — nothing that was written has changed: inputs and what they were compiled to, the
  tombstones, who reads whom, sheets and functions. A pass never leaves this relation.
* `Marked` — besides, some settled cells were queued, and that is all. No value changes.

Records are looked up in ordered maps, and the first part of the module says what lookup finds
after one insertion or removal. What follows is stated with lookups alone, so that nothing later
depends on how the maps are kept.
-/

set_option autoImplicit false

namespace Spreadsheet

/-- Whether recalculation is through with a cell. -/
def CellState.Settled (s : CellState) : Prop := s = .clean ∨ s = .error

namespace CellState

theorem settled_clean : clean.Settled := .inl rfl

theorem settled_error : error.Settled := .inr rfl

theorem not_settled_dirty : ¬ dirty.Settled := by
  rintro (h | h) <;> cases h

theorem not_settled_evaluating : ¬ evaluating.Settled := by
  rintro (h | h) <;> cases h

/-- A cell that is not settled waits or is being evaluated. -/
theorem not_settled_iff {s : CellState} : ¬ s.Settled ↔ s = .dirty ∨ s = .evaluating := by
  cases s <;> simp [Settled]

end CellState

namespace Workbook

/-- A cell reads another. -/
def Reads (w : Workbook) (reader read : CellId) : Prop := read ∈ w.precedentsOf reader

/-- Recalculation is through with a cell. -/
def IsSettled (w : Workbook) (id : CellId) : Prop := ∃ c, w.cell? id = some c ∧ c.state.Settled

variable {w w' w'' : Workbook} {id x : CellId}

/-! ## Maps from cells -/

theorem getElem?_insert_cell {α : Type} (m : CellMap α) (id : CellId) (v : α) (x : CellId) :
    (m.insert id v)[x]? = if x = id then some v else m[x]? := by
  rw [Std.ExtTreeMap.getElem?_insert]
  by_cases hx : x = id
  · rw [if_pos hx, if_pos (CellId.compare_eq_eq_iff.2 hx.symm)]
  · rw [if_neg hx, if_neg fun same => hx (CellId.compare_eq_eq_iff.1 same).symm]

theorem getElem?_erase_cell {α : Type} (m : CellMap α) (id x : CellId) :
    (m.erase id)[x]? = if x = id then none else m[x]? := by
  rw [Std.ExtTreeMap.getElem?_erase]
  by_cases hx : x = id
  · rw [if_pos hx, if_pos (CellId.compare_eq_eq_iff.2 hx.symm)]
  · rw [if_neg hx, if_neg fun same => hx (CellId.compare_eq_eq_iff.1 same).symm]

/-! ## One record -/

theorem cell?_eq_some {c : Cell} : w.cell? x = some c ↔ w.slots[x]? = some (.live c) := by
  unfold cell?
  split
  next c' h => simp [h]
  next h =>
    constructor
    · intro hc
      cases hc
    · intro hc
      exact absurd hc (h c)

/-- The cells that an enumeration of the slots comes upon are those that lookup finds. -/
theorem live_mem_toList {c : Cell} : (x, .live c) ∈ w.slots.toList ↔ w.cell? x = some c := by
  rw [Std.ExtTreeMap.mem_toList_iff_getElem?_eq_some, cell?_eq_some]

theorem isTombstone_iff : w.isTombstone x = true ↔ w.slots[x]? = some .tombstone := by
  unfold isTombstone
  split
  next h => simp [h]
  next h => simpa using h

theorem cell?_of_isTombstone (h : w.isTombstone x = true) : w.cell? x = none := by
  unfold cell?
  rw [isTombstone_iff.1 h]

/-- The record of a cell after the record of one was replaced. -/
theorem cell?_of_insert_live {c : Cell} (h : w'.slots = w.slots.insert id (.live c)) (x : CellId) :
    w'.cell? x = if x = id then some c else w.cell? x := by
  unfold cell?
  rw [h, getElem?_insert_cell]
  by_cases hx : x = id
  · rw [if_pos hx, if_pos hx]
  · rw [if_neg hx, if_neg hx]

theorem isTombstone_of_insert_live {c : Cell} (h : w'.slots = w.slots.insert id (.live c))
    (x : CellId) :
    w'.isTombstone x = if x = id then false else w.isTombstone x := by
  unfold isTombstone
  rw [h, getElem?_insert_cell]
  by_cases hx : x = id
  · rw [if_pos hx, if_pos hx]
  · rw [if_neg hx, if_neg hx]

/-- A tombstone is no cell. -/
theorem isTombstone_eq_false_of_cell? {c : Cell} (h : w.cell? x = some c) :
    w.isTombstone x = false := by
  unfold isTombstone
  rw [cell?_eq_some.1 h]

theorem settledValue_of_cell? {c : Cell} (h : w.cell? x = some c) : w.settledValue x = c.value := by
  unfold settledValue
  rw [h]

theorem settledValue_of_none (h : w.cell? x = none) : w.settledValue x = .blank := by
  unfold settledValue
  rw [h]

theorem precedentsOf_of_cell? {c : Cell} (h : w.cell? x = some c) :
    w.precedentsOf x = c.compiled.precedents := by
  unfold precedentsOf
  rw [h]

theorem reads_of_cell? {c : Cell} {d : CellId} (h : w.cell? x = some c) :
    w.Reads x d ↔ d ∈ c.compiled.precedents := by
  unfold Reads
  rw [precedentsOf_of_cell? h]

theorem state?_eq_some {s : CellState} :
    w.state? x = some s ↔ ∃ c, w.cell? x = some c ∧ c.state = s := by
  unfold state?
  simp

theorem not_isSettled_of_state? {s : CellState} (unsettled : ¬ s.Settled)
    (hs : w.state? x = some s) :
    ¬ w.IsSettled x := by
  rintro ⟨c, hc, settled⟩
  unfold state? at hs
  rw [hc] at hs
  cases hs
  exact unsettled settled

/-! What is asked of a cell depends on its record alone. -/

theorem settledValue_congr (h : w'.cell? x = w.cell? x) : w'.settledValue x = w.settledValue x := by
  unfold settledValue
  rw [h]

theorem state?_congr (h : w'.cell? x = w.cell? x) : w'.state? x = w.state? x := by
  unfold state?
  rw [h]

theorem reads_congr {d : CellId} (h : w'.cell? x = w.cell? x) : w'.Reads x d ↔ w.Reads x d := by
  unfold Reads precedentsOf
  rw [h]

theorem cell?_create (settings : Settings) (now : Moment) (seed : Nat) (engine : Regex.Engine)
    (x : CellId) :
    (create settings now seed engine).cell? x = none := by
  simp [create, cell?]

/-- Nothing is read in a new workbook. -/
theorem not_reads_create {settings : Settings} {now : Moment} {seed : Nat} {engine : Regex.Engine}
    {y : CellId} :
    ¬ (create settings now seed engine).Reads x y := by
  unfold Reads precedentsOf
  rw [cell?_create]
  exact Std.ExtTreeSet.not_mem_empty

/-- Records are all that cells, and what they read, depend on. -/
theorem cell?_of_slots (slots : w'.slots = w.slots) (x : CellId) : w'.cell? x = w.cell? x := by
  unfold cell?
  rw [slots]

theorem reads_of_slots (slots : w'.slots = w.slots) : w'.Reads = w.Reads := by
  funext x d
  exact propext (reads_congr (cell?_of_slots slots x))

/-- Only written cells read others. -/
theorem Reads.cell? {y : CellId} (h : w.Reads x y) : ∃ c, w.cell? x = some c := by
  unfold Reads precedentsOf at h
  split at h
  next c hc => exact ⟨c, hc⟩
  next => simp at h

/-! ## Nothing written changes -/

/-- What was written to a cell, and what that was compiled to. -/
def written (w : Workbook) (id : CellId) : Option (String × Compiled) :=
  (w.cell? id).map fun c => (c.raw, c.compiled)

/-- Two workbooks in which the same was written, and which differ in values and states only. -/
structure SameText (w w' : Workbook) : Prop where
  settings : w'.settings = w.settings
  registry : w'.registry = w.registry
  sheets : w'.sheets = w.sheets
  dependents : w'.dependents = w.dependents
  now : w'.now = w.now
  written (x : CellId) : w'.written x = w.written x
  tombstone (x : CellId) : w'.isTombstone x = w.isTombstone x

namespace SameText

theorem refl (w : Workbook) : SameText w w := ⟨rfl, rfl, rfl, rfl, rfl, fun _ => rfl, fun _ => rfl⟩

theorem trans (h : SameText w w') (h' : SameText w' w'') : SameText w w'' where
  settings := h'.settings.trans h.settings
  registry := h'.registry.trans h.registry
  sheets := h'.sheets.trans h.sheets
  dependents := h'.dependents.trans h.dependents
  now := h'.now.trans h.now
  written x := (h'.written x).trans (h.written x)
  tombstone x := (h'.tombstone x).trans (h.tombstone x)

theorem symm (h : SameText w w') : SameText w' w where
  settings := h.settings.symm
  registry := h.registry.symm
  sheets := h.sheets.symm
  dependents := h.dependents.symm
  now := h.now.symm
  written x := (h.written x).symm
  tombstone x := (h.tombstone x).symm

/-- A cell stays a cell, and keeps what was written to it. -/
theorem cell? (h : SameText w w') {c : Cell} (hc : w.cell? x = some c) :
    ∃ c', w'.cell? x = some c' ∧ c'.raw = c.raw ∧ c'.compiled = c.compiled := by
  have written := h.written x
  unfold Workbook.written at written
  rw [hc] at written
  cases hc' : w'.cell? x with
  | none =>
    rw [hc'] at written
    cases written
  | some c' =>
    rw [hc'] at written
    simp only [Option.map_some, Option.some.injEq, Prod.mk.injEq] at written
    exact ⟨c', rfl, written⟩

theorem precedentsOf (h : SameText w w') (x : CellId) : w'.precedentsOf x = w.precedentsOf x := by
  cases hc : w.cell? x with
  | some c =>
    obtain ⟨c', hc', -, compiled⟩ := h.cell? hc
    rw [precedentsOf_of_cell? hc, precedentsOf_of_cell? hc', compiled]
  | none =>
    cases hc' : w'.cell? x with
    | some c' =>
      obtain ⟨c, hc'', -⟩ := h.symm.cell? hc'
      rw [hc] at hc''
      cases hc''
    | none =>
      unfold Workbook.precedentsOf
      rw [hc, hc']

theorem reads (h : SameText w w') : w'.Reads = w.Reads := by
  funext x y
  unfold Reads
  rw [h.precedentsOf]

theorem dependentsOf (h : SameText w w') (x : CellId) : w'.dependentsOf x = w.dependentsOf x := by
  unfold Workbook.dependentsOf
  rw [h.dependents]

end SameText

/-- Replacing the value and state of a cell changes nothing written. -/
theorem sameText_of_insert_live {c c' : Cell} (hc : w.cell? id = some c)
    (slots : w'.slots = w.slots.insert id (.live c')) (raw : c'.raw = c.raw)
    (compiled : c'.compiled = c.compiled)
      (rest : w'.settings = w.settings ∧ w'.registry = w.registry ∧ w'.sheets = w.sheets ∧
      w'.dependents = w.dependents ∧ w'.now = w.now) : SameText w w' where
  settings := rest.1
  registry := rest.2.1
  sheets := rest.2.2.1
  dependents := rest.2.2.2.1
  now := rest.2.2.2.2
  written x := by
    unfold written
    rw [cell?_of_insert_live slots]
    split
    next h =>
      subst h
      rw [hc, Option.map_some, Option.map_some, raw, compiled]
    next => rfl
  -- A live record has taken the place of a live one.
  tombstone x := by
    rw [isTombstone_of_insert_live slots]
    split
    next h =>
      subst h
      rw [isTombstone_eq_false_of_cell? hc]
    next => rfl

/-! ## Queueing -/

/-- Some settled cells were queued, and nothing else has happened. -/
structure Marked (w w' : Workbook) : Prop where
  text : SameText w w'
  pending : ∀ x ∈ w.pending, x ∈ w'.pending
  cell (x : CellId) : w'.cell? x = w.cell? x ∨
    ∃ c, w.cell? x = some c ∧ c.state.Settled ∧ w'.cell? x = some { c with state := .dirty } ∧
    x ∈ w'.pending

namespace Marked

theorem refl (w : Workbook) : Marked w w := ⟨.refl w, fun _ h => h, fun _ => .inl rfl⟩

theorem trans (h : Marked w w') (h' : Marked w' w'') : Marked w w'' where
  text := h.text.trans h'.text
  pending x hx := h'.pending x (h.pending x hx)
  cell x := by
    rcases h.cell x with same | ⟨c, hc, settled, hc', queued⟩
    · rcases h'.cell x with same' | ⟨c, hc, rest⟩
      · exact .inl (same'.trans same)
      · exact .inr ⟨c, same ▸ hc, rest⟩
    · rcases h'.cell x with same' | ⟨c', hc'', settled', -⟩
      · exact .inr ⟨c, hc, settled, same'.trans hc', h'.pending x queued⟩
      · rw [hc'] at hc''
        cases hc''
        exact absurd settled' CellState.not_settled_dirty

/-- Queueing changes no value. -/
theorem settledValue (h : Marked w w') (x : CellId) : w'.settledValue x = w.settledValue x := by
  rcases h.cell x with same | ⟨c, hc, -, hc', -⟩
  · unfold Workbook.settledValue
    rw [same]
  · rw [settledValue_of_cell? hc, settledValue_of_cell? hc']

/-- A cell that is settled after some were queued was not among them. -/
theorem cell?_of_settled (h : Marked w w') {c : Cell} (hc : w'.cell? x = some c)
    (settled : c.state.Settled) :
    w.cell? x = some c := by
  rcases h.cell x with same | ⟨c', -, -, hc', -⟩
  · rw [← same, hc]
  · rw [hc] at hc'
    cases hc'
    exact absurd settled CellState.not_settled_dirty

theorem isSettled (h : Marked w w') (settled : w'.IsSettled x) : w.IsSettled x := by
  obtain ⟨c, hc, settled⟩ := settled
  exact ⟨c, h.cell?_of_settled hc settled, settled⟩

end Marked

/-- Queueing a cell either finds it settled and queues it, or leaves everything as it is. -/
theorem markDirty_cases (w : Workbook) (id : CellId) :
    (w.markDirty id = w ∧ ¬ w.IsSettled id) ∨
      ∃ c, w.cell? id = some c ∧ c.state.Settled ∧
        w.markDirty id =
          { w with
            slots := w.slots.insert id (.live { c with state := .dirty })
            pending := id :: w.pending
            published := w.published.erase id } := by
  have unsettled : ∀ {c : Cell}, w.cell? id = some c → ¬ c.state.Settled → ¬ w.IsSettled id := by
    rintro c hc unsettled ⟨c', hc', settled⟩
    rw [hc] at hc'
    cases hc'
    exact unsettled settled
  unfold markDirty
  split
  next c h =>
    have hc : w.cell? id = some c := cell?_eq_some.2 h
    -- Only a settled cell is queued; one that waits is in the queue already.
    cases hs : c.state with
    | clean => exact .inr ⟨c, hc, .inl hs, rfl⟩
    | error => exact .inr ⟨c, hc, .inr hs, rfl⟩
    | dirty => exact .inl ⟨rfl, unsettled hc (CellState.not_settled_iff.2 (.inl hs))⟩
    | evaluating => exact .inl ⟨rfl, unsettled hc (CellState.not_settled_iff.2 (.inr hs))⟩
  next h =>
    refine .inl ⟨rfl, ?_⟩
    rintro ⟨c, hc, -⟩
    exact h c (cell?_eq_some.1 hc)

theorem marked_markDirty (w : Workbook) (id : CellId) : Marked w (w.markDirty id) := by
  rcases markDirty_cases w id with ⟨same, -⟩ | ⟨c, hc, settled, h⟩
  · rw [same]
    exact .refl w
  · have slots : (w.markDirty id).slots = w.slots.insert id (.live { c with state := .dirty }) := by
      rw [h]
    constructor
    · exact sameText_of_insert_live hc slots rfl rfl (by rw [h]; exact ⟨rfl, rfl, rfl, rfl, rfl⟩)
    · intro x hx
      rw [h]
      exact List.mem_cons_of_mem _ hx
    · intro x
      rw [cell?_of_insert_live slots]
      by_cases hx : x = id
      · subst hx
        exact .inr ⟨c, hc, settled, by rw [if_pos rfl], by rw [h]; exact List.mem_cons_self⟩
      · exact .inl (by rw [if_neg hx])

/-- A cell that was queued is not settled. -/
theorem not_isSettled_markDirty (w : Workbook) (id : CellId) : ¬ (w.markDirty id).IsSettled id := by
  rcases markDirty_cases w id with ⟨same, unsettled⟩ | ⟨c, -, -, h⟩
  · rw [same]
    exact unsettled
  · rintro ⟨c', hc', settled⟩
    rw [cell?_of_insert_live (c := { c with state := .dirty }) (by rw [h]), if_pos rfl] at hc'
    cases hc'
    exact CellState.not_settled_dirty settled

/-- Queueing several cells queues each of them. -/
theorem marked_foldl_markDirty (ids : List CellId) (w : Workbook) :
    Marked w (ids.foldl markDirty w) ∧ ∀ x ∈ ids, ¬ (ids.foldl markDirty w).IsSettled x := by
  induction ids generalizing w with
  | nil => exact ⟨.refl w, by simp⟩
  | cons id ids ih =>
    obtain ⟨marked, unsettled⟩ := ih (w.markDirty id)
    refine ⟨(marked_markDirty w id).trans marked, fun x hx => ?_⟩
    rcases List.mem_cons.1 hx with rfl | hx
    · exact fun settled => not_isSettled_markDirty w x (marked.isSettled settled)
    · exact unsettled x hx

theorem marked_markDependentsDirty (w : Workbook) (id : CellId) :
    Marked w (w.markDependentsDirty id) ∧ ∀ x ∈ w.dependentsOf id,
    ¬ (w.markDependentsDirty id).IsSettled x := by
  obtain ⟨marked, unsettled⟩ := marked_foldl_markDirty (w.dependentsOf id).toList w
  exact ⟨marked, fun x hx => unsettled x (Std.ExtTreeSet.mem_toList.2 hx)⟩

end Workbook

end Spreadsheet
