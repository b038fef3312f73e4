import Mathlib.Data.List.Nodup
import Mathlib.Data.Set.Insert
import Spreadsheet.Proofs.Graph.Search

/-!
# `Proofs/Graph/Marking.lean` — a search that goes wherever successors lead

The nodes that the search may enter are listed for it, and so it ends. A search without such a
list marks the nodes that it has entered and enters all others (`Ends`). It goes into nodes
without successors, too, and straight out of them again, and otherwise it goes the same way: **if
all nodes with successors are listed, it ends, and with what the search finds** (`ends_iff`). So
the list makes no difference, and nor does the order that it is kept in.

The path never meets itself, since a node that is entered was not on it (`nodup_of_search`).

The two searches are compared step by step. In one step they differ: a node that is not listed is
skipped by one and entered by the other, which leaves it at once, as it has no successors.
-/

set_option autoImplicit false

namespace Spreadsheet.Graph

variable {α : Type}

/-- How a search ends that marks the nodes it has entered, from a path, given last node first,
with the successors still to be tried at each of its nodes. -/
inductive Ends (successors : α → List α) (start : α) :
    Set α → List α → List (List α) → Option (List α) → Prop where
  /-- Nothing is left to be tried. -/
  | empty {entered : Set α} {path : List α} : Ends successors start entered path [] none
  /-- The last node has no successor left, and the search goes back. -/
  | leave {entered : Set α} {path : List α} {trails : List (List α)} {out : Option (List α)}
      (rest : Ends successors start entered path.tail trails out) :
      Ends successors start entered path ([] :: trails) out
  /-- The next successor is the start. -/
  | back {entered : Set α} {path more : List α} {trails : List (List α)} :
      Ends successors start entered path ((start :: more) :: trails) (some path.reverse)
  /-- The next successor was not entered before. -/
  | enter {entered : Set α} {path more : List α} {trails : List (List α)} {out : Option (List α)}
      {next : α} (other : next ≠ start) (fresh : next ∉ entered)
      (rest : Ends successors start (insert next entered) (next :: path)
        (successors next :: more :: trails) out) :
      Ends successors start entered path ((next :: more) :: trails) out
  /-- The next successor was entered before. -/
  | skip {entered : Set α} {path more : List α} {trails : List (List α)} {out : Option (List α)}
      {next : α} (other : next ≠ start) (marked : next ∈ entered)
      (rest : Ends successors start entered path (more :: trails) out) :
      Ends successors start entered path ((next :: more) :: trails) out

variable {successors : α → List α} {start : α} {entered : Set α} {path : List α}
    {trails : List (List α)}
  {out out' : Option (List α)}

/-- A search ends in one way only. -/
theorem Ends.unique (h : Ends successors start entered path trails out)
    (h' : Ends successors start entered path trails out') :
    out = out' := by
  induction h with
  | empty =>
    cases h'
    rfl
  | leave _ ih =>
    cases h' with
    | leave rest => exact ih rest
  | back =>
    cases h' with
    | back => rfl
    | enter other => exact absurd rfl other
    | skip other => exact absurd rfl other
  -- Which rule applies is settled by the next node: the start, a marked one, or neither.
  | enter other fresh _ ih =>
    cases h' with
    | back => exact absurd rfl other
    | enter _ _ rest => exact ih rest
    | skip _ marked => exact absurd marked fresh
  | skip other marked _ ih =>
    cases h' with
    | back => exact absurd rfl other
    | enter _ fresh => exact absurd marked fresh
    | skip _ _ rest => exact ih rest

variable [Ord α] [Std.TransOrd α] [Std.LawfulEqOrd α] [DecidableEq α]
    {fresh nodes : Std.ExtTreeSet α} {members : List α}

/-- The marking search goes along with the other one, as long as what lies ahead is entered by
both or by neither, nodes without successors apart. -/
theorem ends_search {R : α → α → Prop} (hR : ∀ a b, R a b ↔ b ∈ successors a)
    (ahead : ∀ trail ∈ trails, ∀ n ∈ trail, Relation.TransGen R start n)
    (apart : ∀ n ∈ fresh, n ∉ entered)
    (listed : ∀ n, Relation.TransGen R start n → successors n ≠ [] → n ∉ entered → n ∈ fresh) :
    Ends successors start entered path trails (search successors start fresh path trails) := by
  fun_induction search successors start fresh path trails generalizing entered with
  | case1 => exact .empty
  | case2 fresh path trails ih =>
    exact .leave (ih (fun trail ht => ahead trail (List.mem_cons_of_mem _ ht)) apart listed)
  | case3 => exact .back
  | case4 fresh path next more trails other new ih =>
    have here : Relation.TransGen R start next := ahead _ List.mem_cons_self _ List.mem_cons_self
    refine .enter other (apart next new)
      (ih (fun trail ht n hn => ?_) (fun n hn marked => ?_) fun n way some unmarked => ?_)
    · rcases List.mem_cons.1 ht with rfl | ht
      · exact here.tail ((hR _ _).2 hn)
      rcases List.mem_cons.1 ht with rfl | ht
      · exact ahead _ List.mem_cons_self n (List.mem_cons_of_mem _ hn)
      · exact ahead trail (List.mem_cons_of_mem _ ht) n hn
    · rw [Std.ExtTreeSet.mem_erase] at hn
      rcases marked with rfl | marked
      · exact hn.1 Std.ReflCmp.compare_self
      · exact apart n hn.2 marked
    · rw [Set.mem_insert_iff, not_or] at unmarked
      exact Std.ExtTreeSet.mem_erase.2 ⟨by simpa using Ne.symm unmarked.1,
        listed n way some unmarked.2⟩
  | case5 fresh path next more trails other old ih =>
    have here : Relation.TransGen R start next := ahead _ List.mem_cons_self _ List.mem_cons_self
    have ahead : ∀ trail ∈ more :: trails, ∀ n ∈ trail, Relation.TransGen R start n := by
      intro trail ht n hn
      rcases List.mem_cons.1 ht with rfl | ht
      · exact ahead _ List.mem_cons_self n (List.mem_cons_of_mem _ hn)
      · exact ahead trail (List.mem_cons_of_mem _ ht) n hn
    by_cases marked : next ∈ entered
    · exact .skip other marked (ih ahead apart listed)
    · -- Only a node without successors is not listed; the marking search goes in and out again.
      have none : successors next = [] := by
        by_contra some
        exact old (listed next here some marked)
      refine .enter other marked ?_
      rw [none]
      refine .leave (ih ahead (fun n hn => ?_) fun n way some unmarked => listed n way some fun h =>
        unmarked (.inr h))
      rintro (rfl | h)
      · exact old hn
      · exact apart n hn h

/-- If all nodes with successors that a way leads to are listed, the marking search ends, and with
what the search finds. -/
theorem ends_iff {R : α → α → Prop} (hR : ∀ a b, R a b ↔ b ∈ successors a)
    (listed : ∀ n, Relation.TransGen R start n → successors n ≠ [] → n ∈ nodes) :
    Ends successors start {start} [start] [successors start] out ↔
    out = loopThrough? successors nodes start := by
  have ends : Ends successors start {start} [start] [successors start]
    (loopThrough? successors nodes start) := by
    refine ends_search hR (fun trail ht n hn => ?_)
      (fun n hn marked => ?_) fun n way some unmarked => ?_
    · rw [List.mem_singleton.1 ht] at hn
      exact .single ((hR _ _).2 hn)
    · rw [Set.mem_singleton_iff.1 marked] at hn
      exact (Std.ExtTreeSet.mem_erase.1 hn).1 Std.ReflCmp.compare_self
    · rw [Set.mem_singleton_iff] at unmarked
      exact Std.ExtTreeSet.mem_erase.2 ⟨by simpa using Ne.symm unmarked, listed n way some⟩
  constructor
  · intro h
    exact h.unique ends
  · rintro rfl
    exact ends

/-- A search along a path without repetition, none of whose nodes may be entered again, finds such
a path. -/
theorem nodup_of_search (distinct : path.Nodup) (left : ∀ n ∈ path, n ∉ fresh)
    (found : search successors start fresh path trails = some members) : members.Nodup := by
  fun_induction search successors start fresh path trails with
  | case1 => cases found
  | case2 fresh path trails ih =>
    exact ih distinct.tail (fun n hn => left n (List.mem_of_mem_tail hn)) found
  | case3 =>
    cases found
    exact List.nodup_reverse.2 distinct
  | case4 fresh path next more trails other new ih =>
    refine ih (List.nodup_cons.2 ⟨fun mem => left next mem new, distinct⟩)
      (fun n hn mem => ?_) found
    rw [Std.ExtTreeSet.mem_erase] at mem
    rcases List.mem_cons.1 hn with rfl | hn
    · exact mem.1 Std.ReflCmp.compare_self
    · exact left n hn mem.2
  | case5 fresh path next more trails other old ih => exact ih distinct left found

/-- No node is on a loop twice that the search finds. -/
theorem nodup_of_loopThrough? (found : loopThrough? successors nodes start = some members) :
    members.Nodup := by
  refine nodup_of_search (by simp) (fun n hn mem => ?_) found
  rw [List.mem_singleton.1 hn] at mem
  exact (Std.ExtTreeSet.mem_erase.1 mem).1 Std.ReflCmp.compare_self

end Spreadsheet.Graph
