import Spreadsheet.Proofs.Workbook.Wiring

/-!
# `Proofs/Workbook/Edit.lean` — what writing and clearing a cell do to the others

Both edits have one description (`Edited`). Other cells are queued or left alone; none that reads
the edited cell is left settled; and the edited cell itself is queued, or gone. No value changes
but that of a cell that is gone: a written cell keeps its old value until it is evaluated, and its
readers are queued before that.

A write is cut in two, the record that is placed and the marking that follows it; the first
changes the edges of one cell, the second none at all. Clearing is cut in the same way.
-/

set_option autoImplicit false

namespace Spreadsheet.Workbook

variable {w w' w'' : Workbook} {id x d : CellId} {raw : String}

/-- Whether a cell waits in the queue. -/
def Queued (w : Workbook) (c : Cell) (x : CellId) : Prop := c.state = .dirty ∧ x ∈ w.pending

/-- One cell was edited. -/
structure Edited (id : CellId) (w w' : Workbook) : Prop where
  settings : w'.settings = w.settings
  registry : w'.registry = w.registry
  sheets : w'.sheets = w.sheets
  now : w'.now = w.now
  pending : ∀ x ∈ w.pending, x ∈ w'.pending
  cell (x : CellId) : x ≠ id → w'.cell? x = w.cell? x ∨
    ∃ c, w.cell? x = some c ∧ c.state.Settled ∧ w'.cell? x = some { c with state := .dirty } ∧
    x ∈ w'.pending
  own (c : Cell) : w'.cell? id = some c → w'.Queued c id
  readers (x : CellId) : w'.Reads x id → ¬ w'.IsSettled x
  tombstone (x d : CellId) : x ≠ id → w'.Reads x d → d ≠ id → w'.isTombstone d = w.isTombstone d
  wired : w'.Wired

/-- An edit changes one record and edges of that cell (`b`), and queues settled cells after that. -/
theorem edited_of_marked {b : Workbook}
    (rest : b.settings = w.settings ∧ b.registry = w.registry ∧ b.sheets = w.sheets ∧
        b.now = w.now ∧
      b.pending = w.pending)
    (cell : ∀ x, x ≠ id → b.cell? x = w.cell? x)
    (tombstone : ∀ x d, x ≠ id → d ≠ id → w.Reads x d → b.isTombstone d = w.isTombstone d)
    (wired : b.Wired) (marked : Marked b w') (readers : ∀ x, b.Reads x id → ¬ w'.IsSettled x)
    (own : ∀ c, w'.cell? id = some c → w'.Queued c id) : Edited id w w' where
  settings := marked.text.settings.trans rest.1
  registry := marked.text.registry.trans rest.2.1
  sheets := marked.text.sheets.trans rest.2.2.1
  now := marked.text.now.trans rest.2.2.2.1
  pending x hx := marked.pending x (rest.2.2.2.2 ▸ hx)
  cell x hx := by
    rw [← cell x hx]
    exact marked.cell x
  own := own
  readers x reads := by
    rw [marked.text.reads] at reads
    exact readers x reads
  tombstone x d hx reads hd := by
    rw [marked.text.reads] at reads
    rw [marked.text.tombstone, tombstone x d hx hd ((reads_congr (cell x hx)).1 reads)]
  wired := wired.of_sameText marked.text

/-! ## Writing -/

/-- A write, before anything is queued. -/
def placed (w : Workbook) (id : CellId) (raw : String) : Workbook :=
  { (w.unlink id).link id (w.compile id.sheet raw).precedents with
    slots := (w.unlink id).slots.insert id
      (.live ⟨raw, w.compile id.sheet raw, w.settledValue id, .clean⟩) }

/-- A write, before the loop that it closes is queued. -/
def queued (w : Workbook) (id : CellId) (raw : String) : Workbook :=
  ((w.placed id raw).markDirty id).markDependentsDirty id

theorem writeCell_eq (w : Workbook) (id : CellId) (raw : String) :
    w.writeCell id raw = (((w.queued id raw).closedLoop? id).getD []).foldl markDirty
    (w.queued id raw) := rfl

theorem slots_placed (w : Workbook) (id : CellId) (raw : String) : (w.placed id raw).slots =
    (w.unlink id).slots.insert id
    (.live ⟨raw, w.compile id.sheet raw, w.settledValue id, .clean⟩) := rfl

theorem cell?_placed (w : Workbook) (id : CellId) (raw : String) (x : CellId) :
    (w.placed id raw).cell? x =
      if x = id then some ⟨raw, w.compile id.sheet raw, w.settledValue id, .clean⟩
      else w.cell? x := by
  rw [cell?_of_insert_live (slots_placed w id raw)]
  split
  · rfl
  · exact (dropped_unlink w id).cell x

theorem reads_placed {raw : String} (hx : x ≠ id) : (w.placed id raw).Reads x d ↔ w.Reads x d := by
  refine reads_congr ?_
  rw [cell?_placed, if_neg hx]

theorem mem_dependentsOf_placed {raw : String} (wired : w.Wired) :
    x ∈ (w.placed id raw).dependentsOf d ↔ (w.placed id raw).Reads x d := by
  have link : x ∈ (w.placed id raw).dependentsOf d ↔
      x ∈ (w.unlink id).dependentsOf d ∨ (d ∈ (w.compile id.sheet raw).precedents ∧ x = id) := by
    rw [← Std.ExtTreeSet.mem_toList (k := d)]
    exact mem_getD_foldl_addDependent _ _ x d
  rw [link, wired.mem_dependentsOf_unlink]
  by_cases hx : x = id
  · subst hx
    have own : (w.placed x raw).cell? x =
        some ⟨raw, w.compile x.sheet raw, w.settledValue x, .clean⟩ := by
      rw [cell?_placed, if_pos rfl]
    rw [reads_of_cell? own]
    simp
  · rw [reads_placed hx]
    simp [hx]

theorem wired_placed {raw : String} (wired : w.Wired) : (w.placed id raw).Wired where
  mem_dependentsOf x d := mem_dependentsOf_placed wired
  nonempty := noneEmpty_foldl_addDependent _ ((dropped_unlink w id).nonempty wired.nonempty)
  tombstone d hd := by
    rw [isTombstone_of_insert_live (slots_placed w id raw)] at hd
    split at hd
    · cases hd
    · obtain ⟨was, kept⟩ := (dropped_unlink w id).tombstone d hd
      obtain ⟨y, hy⟩ := wired.tombstone d was
      obtain ⟨x, hx⟩ := kept ⟨y, (wired.mem_dependentsOf y d).2 hy⟩
      obtain ⟨reads, ne⟩ := wired.mem_dependentsOf_unlink.1 hx
      exact ⟨x, (reads_placed ne).2 reads⟩

/-- Tombstones of cells that others read stay. -/
theorem isTombstone_placed (wired : w.Wired) (hx : x ≠ id) (hd : d ≠ id) (reads : w.Reads x d) :
    (w.placed id raw).isTombstone d = w.isTombstone d := by
  rw [isTombstone_of_insert_live (slots_placed w id raw), if_neg hd]
  exact (dropped_unlink w id).kept d ⟨x, wired.mem_dependentsOf_unlink.2 ⟨reads, hx⟩⟩

/-- A write queues the cell and whoever reads it. -/
theorem marked_queued (w : Workbook) (id : CellId) (raw : String) :
    Marked (w.placed id raw) (w.queued id raw) ∧ ¬ (w.queued id raw).IsSettled id ∧
      ∀ x ∈ (w.placed id raw).dependentsOf id, ¬ (w.queued id raw).IsSettled x := by
  have first := marked_markDirty (w.placed id raw) id
  obtain ⟨second, unsettled⟩ := marked_markDependentsDirty ((w.placed id raw).markDirty id) id
  refine ⟨first.trans second, fun settled => ?_, fun x hx => unsettled x ?_⟩
  · exact not_isSettled_markDirty _ _ (second.isSettled settled)
  · rwa [first.text.dependentsOf]

theorem marked_writeCell (wired : w.Wired) (id : CellId) (raw : String) :
    Marked (w.placed id raw) (w.writeCell id raw) ∧ ¬ (w.writeCell id raw).IsSettled id ∧
      ∀ x, (w.placed id raw).Reads x id → ¬ (w.writeCell id raw).IsSettled x := by
  obtain ⟨first, own, readers⟩ := marked_queued w id raw
  obtain ⟨second, -⟩ :=
    marked_foldl_markDirty (((w.queued id raw).closedLoop? id).getD []) (w.queued id raw)
  rw [← writeCell_eq] at second
  refine ⟨first.trans second, fun settled => own (second.isSettled settled),
    fun x reads settled => ?_⟩
  exact readers x ((mem_dependentsOf_placed wired).2 reads) (second.isSettled settled)

/-- What is on record of a cell after a write to it. -/
theorem cell?_writeCell_self (wired : w.Wired) (id : CellId) (raw : String) :
    (w.writeCell id raw).cell? id = some ⟨raw, w.compile id.sheet raw, w.settledValue id, .dirty⟩ ∧
      id ∈ (w.writeCell id raw).pending := by
  obtain ⟨marked, own, -⟩ := marked_writeCell wired id raw
  have written : (w.placed id raw).cell? id =
      some ⟨raw, w.compile id.sheet raw, w.settledValue id, .clean⟩ := by
    rw [cell?_placed, if_pos rfl]
  rcases marked.cell id with same | ⟨c, hc, -, queued, pending⟩
  · exact absurd ⟨_, same.trans written, CellState.settled_clean⟩ own
  · rw [written] at hc
    cases hc
    exact ⟨queued, pending⟩

theorem edited_writeCell (wired : w.Wired) (id : CellId) (raw : String) :
    Edited id w (w.writeCell id raw) := by
  obtain ⟨marked, -, readers⟩ := marked_writeCell wired id raw
  have unlinked := dropped_unlink w id
  have rest : (w.placed id raw).settings = w.settings ∧ (w.placed id raw).registry = w.registry ∧
      (w.placed id raw).sheets = w.sheets ∧ (w.placed id raw).now = w.now ∧
      (w.placed id raw).pending = w.pending := by
    simp only [placed, link]
    exact ⟨unlinked.settings, unlinked.registry, unlinked.sheets, unlinked.now, unlinked.pending⟩
  refine edited_of_marked rest (fun x hx => by rw [cell?_placed, if_neg hx])
    (fun x d hx hd reads => isTombstone_placed wired hx hd reads)
    (wired_placed wired) marked readers fun c hc => ?_
  obtain ⟨written, pending⟩ := cell?_writeCell_self wired id raw
  rw [written] at hc
  cases hc
  exact ⟨rfl, pending⟩

/-! ## Clearing -/

/-- A clear, before anything is queued. -/
def removed (w : Workbook) (id : CellId) : Workbook :=
  { w.unlink id with
    published := (w.unlink id).published.erase id
    slots := if (w.unlink id).dependents.contains id then (w.unlink id).slots.insert id .tombstone
      else (w.unlink id).slots.erase id }

theorem clearCell_eq (h : w.slots.contains id = true) :
    w.clearCell id =
      if (w.removed id).dependents.contains id then (w.removed id).markDependentsDirty id
      else w.removed id := by
  unfold clearCell
  rw [if_pos h]
  by_cases hd : (w.unlink id).dependents.contains id = true
  · simp [removed, hd]
  · simp [removed, hd]

theorem slots_removed (w : Workbook) (id x : CellId) :
    (w.removed id).slots[x]? =
      if x = id then (if (w.unlink id).dependents.contains id then some .tombstone else none)
      else (w.unlink id).slots[x]? := by
  unfold removed
  by_cases hd : (w.unlink id).dependents.contains id = true
  · rw [if_pos hd, if_pos hd]
    exact getElem?_insert_cell _ _ _ _
  · rw [if_neg hd, if_neg hd]
    exact getElem?_erase_cell _ _ _

theorem cell?_removed (w : Workbook) (id x : CellId) :
    (w.removed id).cell? x = if x = id then none else w.cell? x := by
  by_cases hx : x = id
  · subst hx
    unfold cell?
    rw [slots_removed, if_pos rfl, if_pos rfl]
    split
    next c h =>
      split at h <;> cases h
    next => rfl
  · rw [if_neg hx, ← (dropped_unlink w id).cell x]
    unfold cell?
    rw [slots_removed, if_neg hx]

theorem reads_removed : (w.removed id).Reads x d ↔ w.Reads x d ∧ x ≠ id := by
  unfold Reads precedentsOf
  rw [cell?_removed]
  by_cases hx : x = id
  · simp [hx]
  · simp [hx]

theorem wired_removed (wired : w.Wired) : (w.removed id).Wired where
  mem_dependentsOf x d := by
    rw [reads_removed]
    exact wired.mem_dependentsOf_unlink
  nonempty := (dropped_unlink w id).nonempty wired.nonempty
  tombstone d hd := by
    rw [isTombstone_iff, slots_removed] at hd
    -- A tombstone has a reader: the new one because it is only left for its readers, the others
    -- as before.
    have reader : ∃ x, x ∈ (w.unlink id).dependentsOf d := by
      by_cases hx : d = id
      · subst hx
        rw [if_pos rfl] at hd
        split at hd
        next h =>
          rw [Std.ExtTreeMap.contains_eq_isSome_getElem?, Option.isSome_iff_exists] at h
          obtain ⟨ids, h⟩ := h
          obtain ⟨x, hx⟩ := (dropped_unlink w d).nonempty wired.nonempty d ids h
          exact ⟨x, mem_dependentsOf_iff.2 ⟨ids, h, hx⟩⟩
        next => cases hd
      · rw [if_neg hx] at hd
        obtain ⟨was, kept⟩ := (dropped_unlink w id).tombstone d (isTombstone_iff.2 hd)
        obtain ⟨y, hy⟩ := wired.tombstone d was
        exact kept ⟨y, (wired.mem_dependentsOf y d).2 hy⟩
    obtain ⟨x, hx⟩ := reader
    exact ⟨x, reads_removed.2 (wired.mem_dependentsOf_unlink.1 hx)⟩

theorem marked_clearCell (wired : w.Wired) (id : CellId) (h : w.slots.contains id = true) :
    Marked (w.removed id) (w.clearCell id) ∧ ∀ x, (w.removed id).Reads x id →
    ¬ (w.clearCell id).IsSettled x := by
  rw [clearCell_eq h]
  split
  next =>
    obtain ⟨marked, unsettled⟩ := marked_markDependentsDirty (w.removed id) id
    exact ⟨marked, fun x reads =>
      unsettled x (((wired_removed wired).mem_dependentsOf x id).2 reads)⟩
  next none =>
    refine ⟨.refl _, fun x reads => absurd ?_ none⟩
    exact (wired_removed wired).contains_iff.2 ⟨x, reads⟩

/-- Nothing is on record of a cell after it was cleared. -/
theorem cell?_clearCell_self (wired : w.Wired) (id : CellId) :
    (w.clearCell id).cell? id = none := by
  by_cases h : w.slots.contains id = true
  · have gone : (w.removed id).cell? id = none := by rw [cell?_removed, if_pos rfl]
    rcases (marked_clearCell wired id h).1.cell id with same | ⟨c, hc, -⟩
    · rw [same, gone]
    · rw [gone] at hc
      cases hc
  · unfold clearCell cell?
    rw [if_neg h]
    rw [Std.ExtTreeMap.contains_eq_isSome_getElem?, Bool.not_eq_true, Option.isSome_eq_false_iff,
      Option.isNone_iff_eq_none] at h
    rw [h]

theorem edited_clearCell (wired : w.Wired) (id : CellId) :
    w.clearCell id = w ∨ Edited id w (w.clearCell id) := by
  -- Clearing a cell that is not there does nothing.
  by_cases h : w.slots.contains id = true
  · right
    obtain ⟨marked, readers⟩ := marked_clearCell wired id h
    have unlinked := dropped_unlink w id
    have rest : (w.removed id).settings = w.settings ∧ (w.removed id).registry = w.registry ∧
        (w.removed id).sheets = w.sheets ∧ (w.removed id).now = w.now ∧
        (w.removed id).pending = w.pending := by
      simp only [removed]
      exact ⟨unlinked.settings, unlinked.registry, unlinked.sheets, unlinked.now, unlinked.pending⟩
    refine edited_of_marked rest (fun x hx => by rw [cell?_removed, if_neg hx])
      (fun x d hx hd reads => ?_)
      (wired_removed wired) marked readers (fun c hc => ?_)
    · rw [← unlinked.kept d ⟨x, wired.mem_dependentsOf_unlink.2 ⟨reads, hx⟩⟩]
      unfold isTombstone
      rw [slots_removed, if_neg hd]
    · rw [cell?_clearCell_self wired id] at hc
      cases hc
  · left
    unfold clearCell
    rw [if_neg h]

end Spreadsheet.Workbook
