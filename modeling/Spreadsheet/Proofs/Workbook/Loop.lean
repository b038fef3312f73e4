import Mathlib.Data.Finset.Card
import Spreadsheet.Proofs.Graph.Search
import Spreadsheet.Proofs.Workbook.Wiring

/-!
# `Proofs/Workbook/Loop.lean` — loops among the cells

A cell lies on a loop if following what cells read leads from it back to it. The search that a
pass makes finds a loop through a cell exactly if it lies on one (`loop?_isSome_iff`), and so does
the one that a write makes the other way round (`loopOfDependents?_isSome_iff`), which follows the
edges on record and needs them to be right.

Both searches enter only cells that read something, which are finitely many. A cell on a loop
reads something itself, so the restriction takes nothing away. How many of these cells a cell
reads, directly or through others, is its `rank`, and off the loops it goes down along every edge
(`rank_lt`).
-/

set_option autoImplicit false

namespace Spreadsheet.Workbook

variable {w w' : Workbook} {id x y : CellId} {members : List CellId}

/-- Following what cells read leads back to the cell. -/
def OnLoop (w : Workbook) (id : CellId) : Prop := Relation.TransGen w.Reads id id

/-- No cell lies on a loop. -/
def Acyclic (w : Workbook) : Prop := ∀ id, ¬ w.OnLoop id

theorem mem_readers : x ∈ w.readers ↔ ∃ y, w.Reads x y := by
  unfold readers
  rw [Std.ExtTreeSet.mem_ofList, List.contains_iff_mem, List.mem_filterMap]
  constructor
  · rintro ⟨⟨id, slot⟩, mem, h⟩
    cases slot with
    | tombstone => cases h
    | live c =>
      simp only at h
      split at h
      · cases h
      next nonempty =>
        cases h
        have some_ : ∃ y, y ∈ c.compiled.precedents := by
          by_contra none
          exact nonempty (Std.ExtTreeSet.isEmpty_iff.2
            (Std.ExtTreeSet.eq_empty_iff_forall_not_mem.2 (not_exists.1 none)))
        obtain ⟨y, hy⟩ := some_
        exact ⟨y, (reads_of_cell? (live_mem_toList.1 mem)).2 hy⟩
  · rintro ⟨y, hy⟩
    obtain ⟨c, hc⟩ := hy.cell?
    refine ⟨(x, .live c), live_mem_toList.2 hc, ?_⟩
    -- A cell that reads something has precedents, and only such cells are listed.
    have nonempty : c.compiled.precedents ≠ ∅ :=
      Std.ExtTreeSet.ne_empty_of_mem ((reads_of_cell? hc).1 hy)
    simp [nonempty]

theorem reads_eq : (fun a b => b ∈ (w.precedentsOf a).toList) = w.Reads := by
  funext a b
  rw [Std.ExtTreeSet.mem_toList]
  rfl

/-- A cell off the loops is no reader of its own. -/
theorem Wired.not_mem_dependentsOf_self (wired : w.Wired) (off : ¬ w.OnLoop x) :
    x ∉ w.dependentsOf x :=
  fun mem => off (.single ((wired.mem_dependentsOf x x).1 mem))

theorem Acyclic.of_sameText (text : SameText w w') (acyclic : w.Acyclic) : w'.Acyclic := by
  intro x loop
  unfold OnLoop at loop
  rw [text.reads] at loop
  exact acyclic x loop

/-- What the search of a pass finds is a loop. -/
theorem isLoop_of_loop? (h : w.loop? id = some members) : Graph.IsLoop w.Reads id members := by
  rw [← reads_eq]
  exact Graph.isLoop_of_loopThrough? h

/-- What lies on a way back to a cell reads something. -/
theorem mem_readers_of_transGen (h : Relation.TransGen w.Reads x y) : x ∈ w.readers := by
  obtain ⟨d, reads, -⟩ := Relation.TransGen.head'_iff.1 h
  exact mem_readers.2 ⟨d, reads⟩

/-- The search of a pass finds a loop exactly if there is one. -/
theorem loop?_isSome_iff : (w.loop? id).isSome = true ↔ w.OnLoop id := by
  refine Graph.loopThrough?_isSome_iff (fun a b => ?_) fun n _ back => mem_readers_of_transGen back
  rw [Std.ExtTreeSet.mem_toList]
  rfl

/-- Going the other way round, each member is read by the next. -/
theorem isLoop_of_loopOfDependents? (wired : w.Wired) (h : w.loopOfDependents? id = some members) :
    Graph.IsLoop (Function.swap w.Reads) id members := by
  have same : (fun a b => b ∈ (w.dependentsOf a).toList) = Function.swap w.Reads := by
    funext a b
    rw [Std.ExtTreeSet.mem_toList]
    exact propext (wired.mem_dependentsOf b a)
  rw [← same]
  exact Graph.isLoop_of_loopThrough? h

/-- The search of a write finds a loop exactly if there is one. -/
theorem loopOfDependents?_isSome_iff (wired : w.Wired) :
    (w.loopOfDependents? id).isSome = true ↔ w.OnLoop id := by
  unfold OnLoop
  rw [← Relation.transGen_swap]
  refine Graph.loopThrough?_isSome_iff (fun a b => ?_) fun n there _ => ?_
  · rw [Std.ExtTreeSet.mem_toList]
    exact (wired.mem_dependentsOf b a).symm
  · exact mem_readers_of_transGen (Relation.transGen_swap.1 there)

/-- Whether a cell lies on a loop is decided by a search. -/
instance (w : Workbook) (id : CellId) : Decidable (w.OnLoop id) :=
  decidable_of_iff _ loop?_isSome_iff

theorem acyclic_iff : (∀ id ∈ w.readers.toList, ¬ w.OnLoop id) ↔ w.Acyclic := by
  constructor
  · intro h id loop
    exact h id (Std.ExtTreeSet.mem_toList.2 (mem_readers_of_transGen loop)) loop
  · intro h id _
    exact h id

/-- Whether there are no loops is decided by a search from every cell that reads something. -/
instance (w : Workbook) : Decidable w.Acyclic := decidable_of_iff _ acyclic_iff

/-! ## Off the loops, reading goes down -/

open Classical in
/-- How many cells with precedents a cell reads, directly or through others, itself counted. -/
noncomputable def rank (w : Workbook) (id : CellId) : Nat :=
  (w.readers.toList.toFinset.filter (Relation.ReflTransGen w.Reads id ·)).card

theorem rank_of_sameText (text : SameText w w') (id : CellId) : w'.rank id = w.rank id := by
  have readers : w'.readers = w.readers := by
    refine Std.ExtTreeSet.ext_mem fun x => ?_
    rw [mem_readers, mem_readers, text.reads]
  unfold rank
  rw [readers, text.reads]

/-- What a way leads to has no higher rank. -/
theorem rank_le_of_path (path : Relation.ReflTransGen w.Reads x y) : w.rank y ≤ w.rank x := by
  classical
  refine Finset.card_le_card fun z hz => ?_
  rw [Finset.mem_filter] at hz ⊢
  exact ⟨hz.1, path.trans hz.2⟩

/-- What a cell reads has a lower rank if no way leads back. -/
theorem rank_lt_of_no_way_back (reads : w.Reads x y) (off : ¬ Relation.ReflTransGen w.Reads y x) :
    w.rank y < w.rank x := by
  classical
  refine Finset.card_lt_card ⟨fun z hz => ?_, fun sub => ?_⟩
  · rw [Finset.mem_filter] at hz ⊢
    exact ⟨hz.1, .head reads hz.2⟩
  · have self : x ∈ w.readers.toList.toFinset.filter (Relation.ReflTransGen w.Reads x ·) := by
      rw [Finset.mem_filter, List.mem_toFinset, Std.ExtTreeSet.mem_toList]
      exact ⟨mem_readers.2 ⟨y, reads⟩, .refl⟩
    exact off (Finset.mem_filter.1 (sub self)).2

/-- What a cell off the loops reads has a lower rank. -/
theorem rank_lt (reads : w.Reads x y) (off : ¬ w.OnLoop x) : w.rank y < w.rank x :=
  rank_lt_of_no_way_back reads fun back => off (.head' reads back)

/-- The rank of a cell is bounded by the number of cells with precedents. -/
theorem rank_le (w : Workbook) (id : CellId) : w.rank id ≤ w.readers.toList.toFinset.card := by
  classical
  exact Finset.card_filter_le _ _

/-- What is passed on to a cell by one that it reads, again and again, comes from a loop. -/
theorem exists_onLoop {S : CellId → Prop} (handed : ∀ x, S x → ∃ y, w.Reads x y ∧ S y) {x : CellId}
    (hx : S x) :
    ∃ y, Relation.ReflTransGen w.Reads x y ∧ w.OnLoop y := by
  induction hr : w.rank x using Nat.strong_induction_on generalizing x with
  | _ r ih =>
    by_cases loop : w.OnLoop x
    · exact ⟨x, .refl, loop⟩
    · obtain ⟨y, reads, hy⟩ := handed x hx
      obtain ⟨z, path, loop⟩ := ih (w.rank y) (hr ▸ rank_lt reads loop) hy rfl
      exact ⟨z, .head reads path, loop⟩

end Spreadsheet.Workbook
