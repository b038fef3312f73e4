import Mathlib.Tactic.ByContra
import Spreadsheet.Proofs.Workbook.Cells

/-!
# `Proofs/Workbook/Wiring.lean` — who reads whom is on record both ways

Every edit takes a cell's old edges out of the record one by one and puts the new ones in. What has
to come out of this is `Wired`: the cells recorded to read a cell are exactly those whose formulas
do, nothing is on record for a cell that nobody reads, and no tombstone outlives its last reader.

An edge is dropped in one of three ways: there is none on record, it is the last of the cell that
is read, or others are left. What one drop does is said by cases on these, and what dropping
several does follows by induction, as each says exactly which edge it takes (`Dropped`).
-/

set_option autoImplicit false

namespace Spreadsheet.Workbook

variable {w w' w'' : Workbook} {id x d reader : CellId}

/-- No cell has an empty set of readers on record. -/
def NoneEmpty (dependents : CellMap CellSet) : Prop :=
  ∀ (d : CellId) (ids : CellSet), dependents[d]? = some ids → ∃ x, x ∈ ids

/-- Readers are on record with the cells they read, and with no others. -/
structure Wired (w : Workbook) : Prop where
  mem_dependentsOf (x d : CellId) : x ∈ w.dependentsOf d ↔ w.Reads x d
  nonempty : NoneEmpty w.dependents
  tombstone (d : CellId) : w.isTombstone d = true → ∃ x, w.Reads x d

theorem wired_create (settings : Settings) (now : Moment) (seed : Nat) (engine : Regex.Engine) :
    Wired (create settings now seed engine) where
  mem_dependentsOf x d := by
    refine iff_of_false ?_ not_reads_create
    simp [create, dependentsOf]
  nonempty d ids h := by
    simp [create] at h
  tombstone d h := by
    simp [create, isTombstone] at h

/-- What `Wired` says depends on what was written only. -/
theorem Wired.of_sameText (h : SameText w w') (wired : w.Wired) : w'.Wired where
  mem_dependentsOf x d := by
    rw [h.dependentsOf, h.reads]
    exact wired.mem_dependentsOf x d
  nonempty d ids hd := by
    rw [h.dependents] at hd
    exact wired.nonempty d ids hd
  tombstone d hd := by
    rw [h.tombstone] at hd
    rw [h.reads]
    exact wired.tombstone d hd

/-- It depends on the records, and on the readers on record. -/
theorem Wired.of_records (wired : w.Wired) (slots : w'.slots = w.slots)
    (dependents : w'.dependents = w.dependents) :
    w'.Wired where
  mem_dependentsOf x d := by
    unfold dependentsOf
    rw [dependents, reads_of_slots slots]
    exact wired.mem_dependentsOf x d
  nonempty := by
    rw [dependents]
    exact wired.nonempty
  tombstone d hd := by
    rw [reads_of_slots slots]
    refine wired.tombstone d ?_
    rw [isTombstone_iff, ← slots]
    exact isTombstone_iff.1 hd

theorem mem_dependentsOf_iff :
    x ∈ w.dependentsOf d ↔ ∃ ids, w.dependents[d]? = some ids ∧ x ∈ ids := by
  unfold dependentsOf
  cases w.dependents[d]? with
  | none => simp
  | some ids => simp

/-- Something is on record for a cell exactly if it has a reader. -/
theorem Wired.contains_iff (wired : w.Wired) :
    w.dependents.contains d = true ↔ ∃ x, w.Reads x d := by
  rw [Std.ExtTreeMap.contains_eq_isSome_getElem?, Option.isSome_iff_exists]
  constructor
  · rintro ⟨ids, h⟩
    obtain ⟨x, hx⟩ := wired.nonempty d ids h
    exact ⟨x, (wired.mem_dependentsOf x d).1 (mem_dependentsOf_iff.2 ⟨ids, h, hx⟩)⟩
  · rintro ⟨x, hx⟩
    obtain ⟨ids, h, -⟩ := mem_dependentsOf_iff.1 ((wired.mem_dependentsOf x d).2 hx)
    exact ⟨ids, h⟩

/-! ## Taking edges out -/

/-- Nothing changed but edges and tombstones. -/
structure Rewired (w w' : Workbook) : Prop where
  settings : w'.settings = w.settings
  registry : w'.registry = w.registry
  sheets : w'.sheets = w.sheets
  now : w'.now = w.now
  pending : w'.pending = w.pending
  cell (x : CellId) : w'.cell? x = w.cell? x
  nonempty : NoneEmpty w.dependents → NoneEmpty w'.dependents

theorem Rewired.trans (h : Rewired w w') (h' : Rewired w' w'') : Rewired w w'' where
  settings := h'.settings.trans h.settings
  registry := h'.registry.trans h.registry
  sheets := h'.sheets.trans h.sheets
  now := h'.now.trans h.now
  pending := h'.pending.trans h.pending
  cell x := (h'.cell x).trans (h.cell x)
  nonempty hn := h'.nonempty (h.nonempty hn)

/-- One cell's edges to some others were taken out, and with them the tombstones whose last edge
this was. -/
structure Dropped (reader : CellId) (ds : List CellId) (w w' : Workbook) :
    Prop extends Rewired w w' where
  mem_dependentsOf (x d : CellId) : x ∈ w'.dependentsOf d ↔
    x ∈ w.dependentsOf d ∧ ¬ (d ∈ ds ∧ x = reader)
  tombstone (d : CellId) : w'.isTombstone d = true →
    w.isTombstone d = true ∧ ((∃ x, x ∈ w.dependentsOf d) → ∃ x, x ∈ w'.dependentsOf d)
  kept (d : CellId) : (∃ x, x ∈ w'.dependentsOf d) → w'.isTombstone d = w.isTombstone d

theorem Dropped.nil (reader : CellId) (w : Workbook) : Dropped reader [] w w where
  settings := rfl
  registry := rfl
  sheets := rfl
  now := rfl
  pending := rfl
  cell _ := rfl
  nonempty h := h
  mem_dependentsOf x d := by simp
  tombstone d h := ⟨h, id⟩
  kept d _ := rfl

theorem Dropped.cons {ds : List CellId} (h : Dropped reader [d] w w')
    (h' : Dropped reader ds w' w'') :
    Dropped reader (d :: ds) w w'' where
  toRewired := h.toRewired.trans h'.toRewired
  mem_dependentsOf x e := by
    rw [h'.mem_dependentsOf, h.mem_dependentsOf, List.mem_singleton, List.mem_cons]
    -- An edge is left by both exactly if it is none of those that either takes out.
    constructor
    · rintro ⟨⟨mem, out⟩, out'⟩
      refine ⟨mem, ?_⟩
      rintro ⟨he | he, hx⟩
      · exact out ⟨he, hx⟩
      · exact out' ⟨he, hx⟩
    · rintro ⟨mem, out⟩
      exact ⟨⟨mem, fun ⟨he, hx⟩ => out ⟨.inl he, hx⟩⟩, fun ⟨he, hx⟩ => out ⟨.inr he, hx⟩⟩
  tombstone e he := by
    obtain ⟨he, hr'⟩ := h'.tombstone e he
    obtain ⟨he, hr⟩ := h.tombstone e he
    exact ⟨he, fun hx => hr' (hr hx)⟩
  kept e he := by
    refine (h'.kept e he).trans (h.kept e ?_)
    obtain ⟨x, hx⟩ := he
    exact ⟨x, ((h'.mem_dependentsOf x e).1 hx).1⟩

/-- Taking out an edge: there is none, it is the last one and the tombstone goes with it, or there
are others. -/
theorem dropDependent_cases (reader : CellId) (w : Workbook) (d : CellId) :
    (w.dependents[d]? = none ∧ dropDependent reader w d = w) ∨
      (∃ ids, w.dependents[d]? = some ids ∧ ids.erase reader = ∅ ∧ dropDependent reader w d =
        { w with
          dependents := w.dependents.erase d
          slots := if w.isTombstone d then w.slots.erase d else w.slots }) ∨
      ∃ ids, w.dependents[d]? = some ids ∧ ids.erase reader ≠ ∅ ∧ dropDependent reader w d =
        { w with dependents := w.dependents.insert d (ids.erase reader) } := by
  unfold dropDependent
  cases h : w.dependents[d]? with
  | none => exact .inl ⟨rfl, rfl⟩
  | some ids =>
    by_cases last : ids.erase reader = ∅
    · exact .inr (.inl ⟨ids, rfl, last, by simp [last]⟩)
    · exact .inr (.inr ⟨ids, rfl, last, by simp [last]⟩)

theorem dependentsOf_of_erase (h : w'.dependents = w.dependents.erase d) (e : CellId) :
    w'.dependentsOf e = if e = d then ∅ else w.dependentsOf e := by
  unfold dependentsOf
  rw [h, getElem?_erase_cell]
  split <;> rfl

theorem dependentsOf_of_insert {ids : CellSet} (h : w'.dependents = w.dependents.insert d ids)
    (e : CellId) :
    w'.dependentsOf e = if e = d then ids else w.dependentsOf e := by
  unfold dependentsOf
  rw [h, getElem?_insert_cell]
  split <;> rfl

theorem mem_dependentsOf_dropDependent (reader : CellId) (w : Workbook) (d x e : CellId) :
    x ∈ (dropDependent reader w d).dependentsOf e ↔
    x ∈ w.dependentsOf e ∧ ¬ (e = d ∧ x = reader) := by
  have erased : ∀ ids : CellSet, w.dependents[d]? = some ids →
      (x ∈ ids.erase reader ↔ x ∈ w.dependentsOf d ∧ ¬ x = reader) := by
    intro ids h
    unfold dependentsOf
    rw [h, Option.getD_some, Std.ExtTreeSet.mem_erase, and_comm, Ne,
      CellId.compare_eq_eq_iff, eq_comm]
  -- Nobody on record, the last reader, or one of several.
  rcases dropDependent_cases reader w d with ⟨h, eq⟩ | ⟨ids, h, last, eq⟩ | ⟨ids, h, -, eq⟩
  · rw [eq]
    refine ⟨fun mem => ⟨mem, ?_⟩, And.left⟩
    rintro ⟨rfl, -⟩
    unfold dependentsOf at mem
    simp [h] at mem
  · rw [dependentsOf_of_erase (w := w) (d := d) (by rw [eq])]
    by_cases he : e = d
    · subst he
      rw [if_pos rfl, ← last, erased ids h]
      simp
    · simp [he]
  · rw [dependentsOf_of_insert (w := w) (d := d) (by rw [eq])]
    by_cases he : e = d
    · subst he
      rw [if_pos rfl, erased ids h]
      simp
    · simp [he]

/-- A record stays as it is, except that a tombstone goes with its last edge. -/
theorem slots_dropDependent (reader : CellId) (w : Workbook) (d e : CellId) :
    ((dropDependent reader w d).slots[e]? = w.slots[e]? ∧
      (w.isTombstone e = true → (∃ x, x ∈ w.dependentsOf e) →
        ∃ x, x ∈ (dropDependent reader w d).dependentsOf e)) ∨
      (w.isTombstone e = true ∧ (dropDependent reader w d).slots[e]? = none ∧
        (dropDependent reader w d).dependentsOf e = ∅) := by
  rcases dropDependent_cases reader w d with ⟨-, eq⟩ | ⟨ids, h, last, eq⟩ | ⟨ids, h, others, eq⟩
  · exact .inl (by rw [eq]; exact ⟨rfl, fun _ h => h⟩)
  · have erased : (dropDependent reader w d).dependents = w.dependents.erase d := by rw [eq]
    have dependents := dependentsOf_of_erase erased
    -- Only the record of the cell that is read is looked at, and taken out if it is a tombstone.
    by_cases he : e = d
    · subst he
      cases ht : w.isTombstone e with
      | true =>
        refine .inr ⟨rfl, ?_, by rw [dependents, if_pos rfl]⟩
        have gone : (dropDependent reader w e).slots = w.slots.erase e := by simp [eq, ht]
        rw [gone, getElem?_erase_cell, if_pos rfl]
      | false => exact .inl ⟨by simp [eq, ht], nofun⟩
    · refine .inl ⟨?_, fun _ h => by rwa [dependents, if_neg he]⟩
      cases ht : w.isTombstone d with
      | true =>
        have gone : (dropDependent reader w d).slots = w.slots.erase d := by simp [eq, ht]
        rw [gone, getElem?_erase_cell, if_neg he]
      | false => simp [eq, ht]
  · refine .inl ⟨by rw [eq], fun _ hx => ?_⟩
    rw [dependentsOf_of_insert (w := w) (d := d) (by rw [eq])]
    split
    · by_contra none
      exact others (Std.ExtTreeSet.eq_empty_iff_forall_not_mem.2 (not_exists.1 none))
    · exact hx

theorem noneEmpty_dropDependent (reader : CellId) (d : CellId) (h : NoneEmpty w.dependents) :
    NoneEmpty (dropDependent reader w d).dependents := by
  intro e ids he
  rcases dropDependent_cases reader w d with ⟨-, eq⟩ | ⟨_, -, -, eq⟩ | ⟨_, -, others, eq⟩
  · rw [eq] at he
    exact h e ids he
  · rw [eq] at he
    simp only [getElem?_erase_cell] at he
    split at he
    · cases he
    · exact h e ids he
  · rw [eq] at he
    simp only [getElem?_insert_cell] at he
    split at he
    · cases he
      by_contra none
      exact others (Std.ExtTreeSet.eq_empty_iff_forall_not_mem.2 (not_exists.1 none))
    · exact h e ids he

theorem rewired_dropDependent (reader : CellId) (w : Workbook) (d : CellId) :
    Rewired w (dropDependent reader w d) where
  settings := by
    rcases dropDependent_cases reader w d with ⟨-, h⟩ | ⟨_, -, -, h⟩ | ⟨_, -, -, h⟩ <;> rw [h]
  registry := by
    rcases dropDependent_cases reader w d with ⟨-, h⟩ | ⟨_, -, -, h⟩ | ⟨_, -, -, h⟩ <;> rw [h]
  sheets := by
    rcases dropDependent_cases reader w d with ⟨-, h⟩ | ⟨_, -, -, h⟩ | ⟨_, -, -, h⟩ <;> rw [h]
  now := by
    rcases dropDependent_cases reader w d with ⟨-, h⟩ | ⟨_, -, -, h⟩ | ⟨_, -, -, h⟩ <;> rw [h]
  pending := by
    rcases dropDependent_cases reader w d with ⟨-, h⟩ | ⟨_, -, -, h⟩ | ⟨_, -, -, h⟩ <;> rw [h]
  cell x := by
    unfold cell?
    rcases slots_dropDependent reader w d x with ⟨same, -⟩ | ⟨tombstone, none, -⟩
    · rw [same]
    · rw [isTombstone_iff.1 tombstone, none]
  nonempty := noneEmpty_dropDependent reader d

theorem dropped_dropDependent (reader : CellId) (w : Workbook) (d : CellId) :
    Dropped reader [d] w (dropDependent reader w d) where
  toRewired := rewired_dropDependent reader w d
  mem_dependentsOf x e := by rw [mem_dependentsOf_dropDependent, List.mem_singleton]
  tombstone e he := by
    rw [isTombstone_iff] at he
    rcases slots_dropDependent reader w d e with ⟨same, rest⟩ | ⟨-, none, -⟩
    · have ht : w.isTombstone e = true := isTombstone_iff.2 (same ▸ he)
      exact ⟨ht, rest ht⟩
    · rw [none] at he
      cases he
  kept e he := by
    obtain ⟨x, hx⟩ := he
    rcases slots_dropDependent reader w d e with ⟨same, -⟩ | ⟨-, -, none⟩
    · unfold isTombstone
      rw [same]
    · rw [none] at hx
      exact absurd hx Std.ExtTreeSet.not_mem_empty

theorem dropped_foldl (reader : CellId) (ds : List CellId) (w : Workbook) :
    Dropped reader ds w (ds.foldl (dropDependent reader) w) := by
  induction ds generalizing w with
  | nil => exact .nil reader w
  | cons d ds ih => exact .cons (dropped_dropDependent reader w d) (ih _)

theorem dropped_unlink (w : Workbook) (id : CellId) :
    Dropped id (w.precedentsOf id).toList w (w.unlink id) :=
  dropped_foldl id _ w

/-- Taking out all edges of a cell leaves the edges of the others. -/
theorem Wired.mem_dependentsOf_unlink (wired : w.Wired) :
    x ∈ (w.unlink id).dependentsOf d ↔ w.Reads x d ∧ x ≠ id := by
  rw [(dropped_unlink w id).mem_dependentsOf, Std.ExtTreeSet.mem_toList, wired.mem_dependentsOf]
  constructor
  · rintro ⟨reads, out⟩
    refine ⟨reads, ?_⟩
    rintro rfl
    exact out ⟨reads, rfl⟩
  · rintro ⟨reads, ne⟩
    exact ⟨reads, fun h => ne h.2⟩

/-! ## Putting edges in -/

theorem getElem?_addDependent (dependents : CellMap CellSet) (e : CellId) :
    (addDependent reader dependents d)[e]? =
      if e = d then some (((dependents[d]?).getD ∅).insert reader) else dependents[e]? := by
  unfold addDependent
  rw [Std.ExtTreeMap.getElem?_alter]
  by_cases he : e = d
  · subst he
    simp
  · rw [if_neg fun h => he (CellId.compare_eq_eq_iff.1 h).symm, if_neg he]

theorem mem_getD_foldl_addDependent (ds : List CellId) (dependents : CellMap CellSet)
    (x e : CellId) :
    x ∈ ((ds.foldl (addDependent reader) dependents)[e]?).getD ∅ ↔
      x ∈ (dependents[e]?).getD ∅ ∨ (e ∈ ds ∧ x = reader) := by
  -- Edges are put in one by one, from whatever is on record by then.
  induction ds generalizing dependents with
  | nil => simp
  | cons d ds ih =>
    rw [List.foldl_cons, ih, getElem?_addDependent]
    by_cases he : e = d
    · subst he
      rw [if_pos rfl, Option.getD_some, Std.ExtTreeSet.mem_insert, CellId.compare_eq_eq_iff]
      simp only [List.mem_cons, true_or, true_and]
      constructor
      · rintro ((rfl | h) | ⟨-, h⟩)
        · exact .inr rfl
        · exact .inl h
        · exact .inr h
      · rintro (h | rfl)
        · exact .inl (.inr h)
        · exact .inl (.inl rfl)
    · rw [if_neg he]
      simp [he]

theorem noneEmpty_foldl_addDependent (ds : List CellId) {dependents : CellMap CellSet}
    (h : NoneEmpty dependents) :
    NoneEmpty (ds.foldl (addDependent reader) dependents) := by
  induction ds generalizing dependents with
  | nil => exact h
  | cons d ds ih =>
    refine ih fun e ids he => ?_
    rw [getElem?_addDependent] at he
    split at he
    · cases he
      exact ⟨reader, Std.ExtTreeSet.mem_insert.2 (.inl (CellId.compare_eq_eq_iff.2 rfl))⟩
    · exact h e ids he

end Spreadsheet.Workbook
