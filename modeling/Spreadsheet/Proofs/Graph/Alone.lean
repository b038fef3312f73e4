import Spreadsheet.Proofs.Graph.Search

/-!
# `Proofs/Graph/Alone.lean` — loops that share no node with another

Where loops share nodes, settling one of them leaves the others as they are. A loop is *alone* if
every node on it has one way only to go on from which it can be come back to. Then there is
nothing to choose: whatever loop is found through one of its nodes, it has all of them among its
members (`Alone.mem_of_isLoop`).

Whether a node is alone is a matter of the graph, and not of the search: it says that between
nodes of its loop there is at most one way on. Other successors it may have, as long as no way
leads back from them.
-/

set_option autoImplicit false

namespace Spreadsheet.Graph

variable {α : Type} {R R' : α → α → Prop} {start m x y z : α} {members : List α}

/-- Two nodes lie on a loop together. -/
def SameLoop (R : α → α → Prop) (x y : α) : Prop :=
  Relation.TransGen R x y ∧ Relation.TransGen R y x

namespace SameLoop

theorem symm (h : SameLoop R x y) : SameLoop R y x := ⟨h.2, h.1⟩

theorem trans (h : SameLoop R x y) (h' : SameLoop R y z) : SameLoop R x z :=
  ⟨h.1.trans h'.1, h'.2.trans h.2⟩

theorem right (h : SameLoop R x y) : SameLoop R y y := h.symm.trans h

/-- What a way to a node on the loop leads to from another is on the loop. -/
theorem of_between (h : SameLoop R x y) (there : R y z) (back : Relation.ReflTransGen R z x) :
    SameLoop R x z :=
  ⟨h.1.tail there, .trans_right back (h.1.trans h.2)⟩

/-- From every node on a loop one can go on along it. -/
theorem exists_next (h : SameLoop R x y) : ∃ z, R y z ∧ SameLoop R x z := by
  obtain ⟨z, there, back⟩ := Relation.TransGen.head'_iff.1 h.2
  exact ⟨z, there, h.of_between there back⟩

theorem mono (sub : ∀ a b, R a b → R' a b) (h : SameLoop R x y) : SameLoop R' x y :=
  ⟨Relation.TransGen.mono sub _ _ h.1, Relation.TransGen.mono sub _ _ h.2⟩

/-- A loop stays one as long as the ways from its own nodes are kept. -/
theorem of_kept (kept : ∀ a b, SameLoop R x a → R a b → R' a b) (h : SameLoop R x y) :
    SameLoop R' x y := by
  have along : ∀ {a b}, SameLoop R x a → SameLoop R x b → Relation.TransGen R a b →
    Relation.TransGen R' a b := by
    intro a b ha hb path
    induction path using Relation.TransGen.head_induction_on with
    | single there => exact .single (kept _ _ ha there)
    | head there rest ih =>
      have on : SameLoop R x _ := ha.of_between there (rest.trans hb.2).to_reflTransGen
      exact .head (kept _ _ ha there) (ih on)
  exact ⟨along ⟨h.1.trans h.2, h.1.trans h.2⟩ h h.1, along h ⟨h.1.trans h.2, h.1.trans h.2⟩ h.2⟩

end SameLoop

/-- Each node that lies on a loop with this one has just one way to go on along it. -/
def Alone (R : α → α → Prop) (x : α) : Prop :=
  ∀ y z z', SameLoop R x y → R y z → R y z' → SameLoop R x z → SameLoop R x z' → z = z'

namespace Alone

/-- With fewer ways a loop that was alone is no less so. -/
theorem anti (sub : ∀ a b, R a b → R' a b) (alone : Alone R' x) : Alone R x :=
  fun y z z' hy there there' hz hz' => alone y z z' (hy.mono sub) (sub y z there) (sub y z' there')
    (hz.mono sub) (hz'.mono sub)

theorem of_unique (unique : ∀ y z z', R y z → R y z' → z = z') (x : α) : Alone R x :=
  fun y z z' _ there there' _ _ => unique y z z' there there'

/-- Going round within some nodes, one comes past all that lie on the loop. -/
theorem mem_of_closed (alone : Alone R x) (next : ∀ m ∈ members, ∃ n ∈ members, R m n)
    (round : ∀ m ∈ members, ∀ n ∈ members, Relation.TransGen R m n) (hm : m ∈ members)
    (on : SameLoop R x m) (hy : SameLoop R x y) : y ∈ members := by
  have path : Relation.TransGen R m y := on.2.trans hy.1
  -- Along a way to `y`: where it goes on from a member, so do the members, and there is only one
  -- way on.
  induction path using Relation.TransGen.head_induction_on with
  | @single m there =>
    obtain ⟨n, hn, there'⟩ := next m hm
    have same := alone m y n on there there' hy
      (on.of_between there' ((round n hn m hm).trans on.2).to_reflTransGen)
    exact same ▸ hn
  | @head m c there rest ih =>
    obtain ⟨n, hn, there'⟩ := next m hm
    have hc : SameLoop R x c := on.of_between there (rest.trans hy.2).to_reflTransGen
    have same := alone m c n on there there' hc
      (on.of_between there' ((round n hn m hm).trans on.2).to_reflTransGen)
    exact ih (same ▸ hn) hc

/-- A loop that is found through one node of a loop that is alone has all its nodes among its
members. -/
theorem mem_of_isLoop (alone : Alone R x) (loop : IsLoop R start members) (hm : m ∈ members)
    (on : SameLoop R x m) (hy : SameLoop R x y) : y ∈ members :=
  alone.mem_of_closed (fun _ hm => loop.next hm) (fun _ hm _ hn => loop.transGen hm hn) hm on hy

/-- So has one that was found the other way round. -/
theorem mem_of_isLoop_swap (alone : Alone R x) (loop : IsLoop (Function.swap R) start members)
    (hm : m ∈ members) (on : SameLoop R x m) (hy : SameLoop R x y) : y ∈ members :=
  alone.mem_of_closed (fun _ hm => loop.prev hm)
    (fun _ hm _ hn => Relation.transGen_swap.1 (loop.transGen hn hm)) hm on hy

end Alone

end Spreadsheet.Graph
