import Std.Data.ExtTreeSet

/-!
# `Graph/Cycle.lean` — finding a way back to where one started

A depth-first search for a path that leaves a node and comes back to it. The search never enters a
node twice: what lies behind a node that led nowhere need not be looked at again, however it is
reached. It keeps the nodes not yet entered, the path it is on, and for each node on the path the
successors it has still to try.

Only the listed nodes are entered. A graph may have any number of further nodes, as long as none
of them has successors: no way back leads through those.
-/

set_option autoImplicit false

namespace Spreadsheet.Graph

variable {α : Type} [Ord α] [Std.TransOrd α]

/-- The sum of a quantity over a list. -/
def total {β : Type} (f : β → Nat) : List β → Nat
  | [] => 0
  | x :: xs => f x + total f xs

/-- How many steps the nodes not yet entered are good for: each can be entered once, and then each
of its successors tried and the node left. -/
def allowance (successors : α → List α) (fresh : Std.ExtTreeSet α) : Nat :=
  total (fun n => (successors n).length + 2) fresh.toList

/-- How many steps the successors still to be tried are good for. -/
def remaining (trails : List (List α)) : Nat := total (fun t => t.length + 1) trails

/-- One member's part of a total can be taken out of it. -/
theorem total_erase {β : Type} [DecidableEq β] (f : β → Nat) {x : β} {xs : List β} (h : x ∈ xs) :
    total f xs = f x + total f (xs.erase x) := by
  induction xs with
  | nil => simp at h
  | cons y ys ih =>
    by_cases e : y = x
    · subst e
      simp [total]
    · have hm : x ∈ ys := by
        rcases List.mem_cons.1 h with rfl | hm
        · exact absurd rfl e
        · exact hm
      rw [List.erase_cons_tail (by simpa using e)]
      simp only [total, ih hm]
      omega

/-- A total over some of the members of a list is at most the total over all. -/
theorem total_le_of_subset {β : Type} [DecidableEq β] (f : β → Nat) {xs ys : List β}
    (distinct : xs.Nodup) (h : xs ⊆ ys) : total f xs ≤ total f ys := by
  induction xs generalizing ys with
  | nil => exact Nat.zero_le _
  | cons x xs ih =>
    obtain ⟨hx, hd⟩ := List.nodup_cons.1 distinct
    rw [total_erase f (h (List.mem_cons_self : x ∈ x :: xs))]
    refine Nat.add_le_add_left (ih hd fun y hy => ?_) _
    refine (List.mem_erase_of_ne ?_).2 (h (List.mem_cons_of_mem x hy))
    rintro rfl
    exact hx hy

/-- Entering a node uses up what it was good for. -/
theorem allowance_erase [Std.LawfulEqOrd α] (successors : α → List α)
    {fresh : Std.ExtTreeSet α} {n : α} (h : n ∈ fresh) :
    (successors n).length + 2 + allowance successors (fresh.erase n) ≤
    allowance successors fresh := by
  classical
  have distinct : (n :: (fresh.erase n).toList).Nodup := by
    refine List.nodup_cons.2 ⟨by simp, ?_⟩
    exact Std.ExtTreeSet.distinct_toList.imp fun hne e => hne (by simp [e])
  refine total_le_of_subset (fun n => (successors n).length + 2) distinct fun m hm => ?_
  rcases List.mem_cons.1 hm with rfl | hm
  · simpa using h
  · simp at hm
    simpa using hm.2

/-- Searches on from a path, given last node first, with the successors still to be tried at each
of its nodes. -/
def search [Std.LawfulEqOrd α] [DecidableEq α] (successors : α → List α) (start : α)
    (fresh : Std.ExtTreeSet α) (path : List α) (trails : List (List α)) : Option (List α) :=
  match trails with
  | [] => none
  | [] :: trails => search successors start fresh path.tail trails
  | (next :: more) :: trails =>
    if next = start then some path.reverse
    else if next ∈ fresh then
      search successors start (fresh.erase next) (next :: path) (successors next :: more :: trails)
    else search successors start fresh path (more :: trails)
termination_by allowance successors fresh + remaining trails
decreasing_by
  · simp only [remaining, total, List.length_nil]
    omega
  · have := allowance_erase successors ‹next ∈ fresh›
    simp only [remaining, total, List.length_cons]
    omega
  · simp only [remaining, total, List.length_cons]
    omega

/-- A path from a node back to itself: it begins at the node, follows a successor at every step and
ends at a node that the start is a successor of. -/
def loopThrough? [Std.LawfulEqOrd α] [DecidableEq α] (successors : α → List α)
    (nodes : Std.ExtTreeSet α) (start : α) : Option (List α) :=
  search successors start (nodes.erase start) [start] [successors start]

end Spreadsheet.Graph
