import Spreadsheet.Proofs.Graph.Marking
import Spreadsheet.Proofs.Workbook.Reachable
import Spreadsheet.Proofs.Workbook.Surfaced

/-!
# `Proofs/Workbook/LoopSearch.lean` — the two searches for a loop through a cell

A pass follows what cells read, and a write follows who reads them. Both let the search enter only
cells that read something. No others can be met again on the way back, so each ends with what a
search ends with that goes wherever its edges lead (`ends_loop?_iff`,
`ends_loopOfDependents?_iff`). The edges of one are those of the other turned round, and so either
both find a loop or neither does, in every workbook that a write can find or leave
(`loop_searches_are_exact`).

In the middle of a write the cells have their new edges already and some of them are queued. That
is why the statement is about every workbook in which readers are on record as they are, and not
only about those between two operations.
-/

set_option autoImplicit false

namespace Spreadsheet.Workbook

open Relation (TransGen)

variable {w : Workbook} {id : CellId} {raw : String} {out : Option (List CellId)}

/-! ## What a write finds -/

/-- A workbook that a write can find: one that operations lead to, or one on the way from there to
another, with sheets or functions added and some of the formulas that they concern compiled
again. -/
inductive Midway : Workbook → Prop where
  | reachable {w : Workbook} (reachable : w.Reachable) : Midway w
  | sheets {w : Workbook} (midway : Midway w) (sheets : List String) :
      Midway { w with sheets := sheets }
  | functions {w : Workbook} (midway : Midway w) (registry : Registry) (calls : CallCounts) :
      Midway { w with registry := registry, calls := calls }
  | written {w : Workbook} (midway : Midway w) (id : CellId) (raw : String) :
      Midway (w.writeCell id raw)

/-- In all of these, who reads whom is on record as the formulas have it. -/
theorem Midway.wired (midway : w.Midway) : w.Wired := by
  induction midway with
  | reachable reachable => exact reachable.coherent.wired
  | sheets _ sheets ih => exact ih.of_records rfl rfl
  | functions _ registry calls ih => exact ih.of_records rfl rfl
  | written _ id raw ih => exact (edited_writeCell ih id raw).wired

/-! ## Where the searches may go -/

/-- Following what cells read, the search of a pass ends as one that may go everywhere. -/
theorem ends_loop?_iff :
    Graph.Ends (fun c => (w.precedentsOf c).toList) id {id} [id] [(w.precedentsOf id).toList] out ↔
    out = w.loop? id := by
  refine Graph.ends_iff (R := w.Reads)
    (fun a b => Std.ExtTreeSet.mem_toList.symm) fun n _ some => ?_
  obtain ⟨y, hy⟩ := List.exists_mem_of_ne_nil _ some
  exact mem_readers.2 ⟨y, Std.ExtTreeSet.mem_toList.1 hy⟩

/-- Following who reads them, the search of a write does so, too: what it meets on its way reads
something. -/
theorem ends_loopOfDependents?_iff (wired : w.Wired) :
    Graph.Ends (fun c => (w.dependentsOf c).toList) id {id} [id] [(w.dependentsOf id).toList] out ↔
      out = w.loopOfDependents? id := by
  refine Graph.ends_iff (R := Function.swap w.Reads) (fun a b => ?_) fun n there _ => ?_
  · rw [Std.ExtTreeSet.mem_toList]
    exact (wired.mem_dependentsOf b a).symm
  · exact mem_readers_of_transGen (Relation.transGen_swap.1 there)

/-! ## Either way round -/

/-- The search that a write makes finds a loop exactly if the cell lies on one. -/
theorem closedLoop?_isSome_iff (wired : w.Wired) :
    (w.closedLoop? id).isSome = true ↔ w.OnLoop id := by
  constructor
  · intro some
    obtain ⟨members, found⟩ := Option.isSome_iff_exists.1 some
    unfold closedLoop? at found
    split at found
    · cases found
    · exact (loopOfDependents?_isSome_iff wired).1 (found ▸ rfl)
  · intro loop
    rw [closedLoop?_of_onLoop wired loop]
    exact (loopOfDependents?_isSome_iff wired).2 loop

/-- Either way round there is a loop to be found, or there is none. -/
theorem closedLoop?_isSome_eq (wired : w.Wired) (id : CellId) :
    (w.closedLoop? id).isSome = (w.loop? id).isSome := by
  rw [Bool.eq_iff_iff, closedLoop?_isSome_iff wired, loop?_isSome_iff]

/-- What a write queues is no matter to the search that follows what cells read. -/
theorem loop?_writeCell_isSome_eq (w : Workbook) (id : CellId) (raw : String) :
    ((w.writeCell id raw).loop? id).isSome = ((w.queued id raw).loop? id).isSome := by
  have marked : Marked (w.queued id raw) (w.writeCell id raw) := by
    rw [writeCell_eq]
    exact (marked_foldl_markDirty _ _).1
  rw [Bool.eq_iff_iff, loop?_isSome_iff, loop?_isSome_iff, OnLoop, OnLoop, marked.text.reads]

section
variable {α : Type} [Ord α] [Std.TransOrd α] [Std.LawfulEqOrd α] [DecidableEq α]
    {successors : α → List α}
  {nodes : Std.ExtTreeSet α}

/-- **The search for a loop is exact.** On a graph in which finitely many nodes have successors,
in whatever order they are listed and however often, a search from any node ends, and it ends in
one way, which does not depend on how the nodes are kept. It finds something exactly if a way
leads from the node back to it. What it finds is such a way: it begins at the node, has every node
just once, follows an edge at every step, and an edge leads from its last node to its first.

The two searches of a workbook are such searches, one along what cells read and one along who
reads them. In every workbook that a write can find, and in the middle of every write, the search
along who reads a cell finds a loop exactly if the search along what it reads finds one. -/
theorem loop_searches_are_exact (listed : ∀ n, successors n ≠ [] → n ∈ nodes) (start : α)
    (midway : w.Midway) (id : CellId) (raw : String) :
    (∀ out, Graph.Ends successors start {start} [start] [successors start] out ↔
      out = Graph.loopThrough? successors nodes start) ∧
    ((Graph.loopThrough? successors nodes start).isSome ↔
      TransGen (fun a b => b ∈ successors a) start start) ∧
    (∀ members, Graph.loopThrough? successors nodes start = some members →
      Graph.IsLoop (fun a b => b ∈ successors a) start members ∧ members.Nodup) ∧
    Graph.Ends (fun c => (w.precedentsOf c).toList) id {id} [id] [(w.precedentsOf id).toList]
    (w.loop? id) ∧
    Graph.Ends (fun c => (w.dependentsOf c).toList) id {id} [id] [(w.dependentsOf id).toList]
    (w.loopOfDependents? id) ∧
    (w.closedLoop? id).isSome = (w.loop? id).isSome ∧
    ((w.queued id raw).closedLoop? id).isSome = ((w.writeCell id raw).loop? id).isSome := by
  have reading : ∀ a b, b ∈ successors a ↔ b ∈ successors a := fun _ _ => Iff.rfl
  have wired := midway.wired
  have queued : (w.queued id raw).Wired :=
    (wired_placed wired).of_sameText (marked_queued w id raw).1.text
  refine ⟨fun out => Graph.ends_iff reading fun n _ some => listed n some,
    Graph.loopThrough?_isSome_iff reading fun n _ back => ?_, fun members found =>
    ⟨Graph.isLoop_of_loopThrough? found, Graph.nodup_of_loopThrough? found⟩, ends_loop?_iff.2 rfl,
    (ends_loopOfDependents?_iff wired).2 rfl, closedLoop?_isSome_eq wired id, ?_⟩
  -- A node on the way back has a successor, and those that have one are listed.
  · obtain ⟨m, there, -⟩ := TransGen.head'_iff.1 back
    exact listed n (List.ne_nil_of_mem there)
  · rw [loop?_writeCell_isSome_eq, closedLoop?_isSome_eq queued]

end

/-- A graph in which dead ends lie before the way back, and a write that closes a loop of two
cells. -/
theorem loop_searches_are_exact_of_pair :
    let successors : Nat → List Nat :=
      fun n => if n = 1 then [4, 2, 2] else if n = 2 then [2, 5, 3] else if n = 3 then [5, 1] else
        if n = 5 then [2] else []
    let w := (create Settings.default ⟨⟨2000, 1, 1⟩, 0⟩ 0).writeCell ⟨0, ⟨0, 0⟩⟩ "=B1"
    TransGen (fun a b => b ∈ successors a) 1 1 ∧
    Graph.IsLoop (fun a b => b ∈ successors a) 1 [1, 2, 3] ∧
    ((w.queued ⟨0, ⟨0, 1⟩⟩ "=A1").closedLoop? ⟨0, ⟨0, 1⟩⟩).isSome = true ∧
    ((w.writeCell ⟨0, ⟨0, 1⟩⟩ "=A1").loop? ⟨0, ⟨0, 1⟩⟩).isSome = true := by
  intro successors w
  have listed : ∀ n, successors n ≠ [] → n ∈ Std.ExtTreeSet.ofList [1, 2, 3, 5] := by
    intro n some
    simp only [successors] at some
    rw [Std.ExtTreeSet.mem_ofList]
    split at some
    · simp [*]
    split at some
    · simp [*]
    split at some
    · simp [*]
    split at some
    · simp [*]
    · exact absurd rfl some
  have reachable : w.Reachable := (reachable_create _ _ _ _).write _ _
  obtain ⟨-, exact, loop, -, -, -, agree⟩ :=
    loop_searches_are_exact listed 1 (.reachable reachable) ⟨0, ⟨0, 1⟩⟩ "=A1"
  have found : Graph.loopThrough? successors (Std.ExtTreeSet.ofList [1, 2, 3, 5]) 1 =
    some [1, 2, 3] := by decide +kernel
  have closed : ((w.queued ⟨0, ⟨0, 1⟩⟩ "=A1").closedLoop? ⟨0, ⟨0, 1⟩⟩).isSome = true := by
    decide +kernel
  exact ⟨exact.1 (found ▸ rfl), (loop _ found).1, closed, agree ▸ closed⟩

end Spreadsheet.Workbook
