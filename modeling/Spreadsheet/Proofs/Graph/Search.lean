import Mathlib.Data.List.Chain
import Mathlib.Data.List.Forall2
import Mathlib.Logic.Relation
import Spreadsheet.Graph.Cycle

/-!
# `Proofs/Graph/Search.lean` — the search finds a loop exactly if there is one

**Sound.** What the search returns is a loop: it begins at the start, every member has the next one
as a successor, and the last one has the start. The invariant is that the path follows successors
and that what is still to be tried at a node is a successor of that node.

**Complete.** If the search returns nothing, no way leads back to the start. The invariant is that
the successors of an entered node are entered themselves, unless they are still to be tried
(`Exhausts`). Once nothing is left to be tried, the entered nodes are closed under successors, and
the start is not among those successors.
-/

set_option autoImplicit false

namespace Spreadsheet.Graph

variable {α : Type}

/-! ## Loops -/

/-- A way from a node back to itself, given by its nodes: each is related to the next one, and the
last one to the first. -/
structure IsLoop (R : α → α → Prop) (start : α) (members : List α) : Prop where
  head : members.head? = some start
  chain : List.IsChain R (members ++ [start])

namespace IsLoop

variable {R : α → α → Prop} {start : α} {members : List α}

theorem start_mem (h : IsLoop R start members) : start ∈ members := List.mem_of_head? h.head

/-- Every member is related to a member. -/
theorem next (h : IsLoop R start members) {m : α} (hm : m ∈ members) : ∃ n ∈ members, R m n := by
  obtain ⟨before, after, rfl⟩ := List.append_of_mem hm
  have chain := h.chain
  rw [List.append_assoc, List.cons_append] at chain
  have rest := (List.isChain_append.1 chain).2.1
  cases after with
  | nil => exact ⟨start, h.start_mem, (List.isChain_cons_cons.1 rest).1⟩
  | cons n after => exact ⟨n, by simp, (List.isChain_cons_cons.1 rest).1⟩

/-- Every member has a member that is related to it. -/
theorem prev (h : IsLoop R start members) {m : α} (hm : m ∈ members) : ∃ n ∈ members, R n m := by
  obtain ⟨before, after, rfl⟩ := List.append_of_mem hm
  cases hbefore : before.reverse with
  | nil =>
    -- The first member is the start, and it comes after the last.
    have first : m = start := by
      have head := h.head
      rw [List.reverse_eq_nil_iff.1 hbefore] at head
      exact Option.some.inj head
    have last : (before ++ m :: after).getLast? =
      some ((m :: after).getLast (List.cons_ne_nil _ _)) := by
      rw [List.getLast?_append, List.getLast?_eq_some_getLast (List.cons_ne_nil m after),
        Option.some_or]
    have closing := (List.isChain_append.1 h.chain).2.2 _ last start rfl
    exact ⟨_, List.mem_of_getLast? last, first ▸ closing⟩
  | cons n more =>
    have split : before = more.reverse ++ [n] := by
      rw [← List.reverse_cons, ← hbefore, List.reverse_reverse]
    have chain := h.chain
    rw [split, List.append_assoc, List.append_assoc] at chain
    have rest := (List.isChain_append.1 chain).2.1
    exact ⟨n, by simp [split], (List.isChain_cons_cons.1 rest).1⟩

/-- From every member a way leads on to the start. -/
theorem toStart (h : IsLoop R start members) {m : α} (hm : m ∈ members) :
    Relation.TransGen R m start := by
  obtain ⟨before, after, rfl⟩ := List.append_of_mem hm
  have chain := h.chain
  rw [List.append_assoc, List.cons_append] at chain
  have rest := (List.isChain_append.1 chain).2.1
  cases hafter : after ++ [start] with
  | nil => simp at hafter
  | cons n more =>
    rw [hafter] at rest
    obtain ⟨first, rest⟩ := List.isChain_cons_cons.1 rest
    -- The chain behind the member ends with the start.
    have last : (n :: more).getLast (List.cons_ne_nil _ _) = start := by
      simp only [← hafter, List.getLast_append_of_ne_nil _ (List.cons_ne_nil start []),
        List.getLast_singleton]
    exact .head' first (List.relationReflTransGen_of_exists_isChain_cons more rest last)

/-- From the start a way leads to every member. -/
theorem fromStart (h : IsLoop R start members) {m : α} (hm : m ∈ members) :
    Relation.ReflTransGen R start m := by
  obtain ⟨before, after, rfl⟩ := List.append_of_mem hm
  have chain := h.chain
  have head := h.head
  cases before with
  | nil =>
    cases head
    exact .refl
  | cons n before =>
    cases head
    have split : start :: before ++ m :: after ++ [start] = (start :: (before ++ [m])) ++
      (after ++ [start]) := by simp
    rw [split] at chain
    have front : List.IsChain R (start :: (before ++ [m])) := (List.isChain_append.1 chain).1
    exact List.relationReflTransGen_of_exists_isChain_cons _ front (by simp)

/-- From every member a way leads to every member. -/
theorem transGen (h : IsLoop R start members) {m n : α} (hm : m ∈ members) (hn : n ∈ members) :
    Relation.TransGen R m n := (h.toStart hm).trans_left (h.fromStart hn)

end IsLoop

/-! ## Soundness -/

variable [Ord α] [Std.TransOrd α] [Std.LawfulEqOrd α] [DecidableEq α] {successors : α → List α}
    {start : α}

/-- A search along a path of successors, with only successors still to be tried, finds a loop. -/
theorem search_sound {fresh : Std.ExtTreeSet α} {path : List α} {trails : List (List α)}
    (aligned : List.Forall₂ (fun n trail => ∀ s ∈ trail, s ∈ successors n) path trails)
    (chain : List.IsChain (fun b a => b ∈ successors a) path)
    (last : ∀ n ∈ path.getLast?, n = start) {members : List α}
    (found : search successors start fresh path trails = some members) :
    IsLoop (fun a b => b ∈ successors a) start members := by
  fun_induction search successors start fresh path trails with
  | case1 => cases found
  | case2 fresh path trails ih =>
    -- The last node of the path is a dead end and is left.
    cases aligned with
    | @cons n _ path _ _ aligned =>
      refine ih aligned chain.tail (fun m hm => last m ?_) found
      cases path with
      | nil => cases hm
      | cons p path => simpa using hm
  | case3 fresh path more trails =>
    -- The start is met again: the path is the loop, in reverse.
    cases found
    cases aligned with
    | @cons n _ path _ tried aligned =>
      constructor
      · rw [List.head?_reverse]
        cases hl : (n :: path).getLast? with
        | none => simp at hl
        | some m => rw [last m hl]
      · rw [← List.reverse_cons, List.isChain_reverse]
        exact List.isChain_cons_cons.2 ⟨tried start List.mem_cons_self, chain⟩
  | case4 fresh path next more trails ne entered ih =>
    cases aligned with
    | @cons n _ path _ tried aligned =>
      refine ih ?_ (List.isChain_cons_cons.2 ⟨tried next List.mem_cons_self, chain⟩)
        (fun m hm => last m ?_) found
      · exact .cons (fun s hs => hs)
          (.cons (fun s hs => tried s (List.mem_cons_of_mem _ hs)) aligned)
      · simpa using hm
  | case5 fresh path next more trails ne notEntered ih =>
    cases aligned with
    | @cons n _ path _ tried aligned =>
      exact ih (.cons (fun s hs => tried s (List.mem_cons_of_mem _ hs)) aligned) chain last found

/-- What the search finds is a loop. -/
theorem isLoop_of_loopThrough? {nodes : Std.ExtTreeSet α} {members : List α}
    (found : loopThrough? successors nodes start = some members) :
    IsLoop (fun a b => b ∈ successors a) start members := by
  refine search_sound (.cons (fun s hs => hs) .nil) (.singleton start) (fun n hn => ?_) found
  cases hn
  rfl

/-! ## Completeness -/

/-- What counts among the successors of entered nodes is still to be tried, or is entered and not
the start. -/
def Exhausts (counts : α → Prop) (successors : α → List α) (start : α) (fresh : Std.ExtTreeSet α)
    (trails : List (List α)) : Prop :=
  ∀ n, counts n → n ∉ fresh → ∀ s ∈ successors n, counts s → (s ≠ start ∧ s ∉ fresh) ∨
    ∃ trail ∈ trails, s ∈ trail

/-- A search that finds nothing ends with nothing to be tried. -/
theorem search_exhausts {counts : α → Prop} {fresh : Std.ExtTreeSet α} {path : List α}
    {trails : List (List α)} (exhausts : Exhausts counts successors start fresh trails)
    (absent : start ∉ fresh) (failed : search successors start fresh path trails = none) :
    ∃ fresh', start ∉ fresh' ∧ Exhausts counts successors start fresh' [] := by
  fun_induction search successors start fresh path trails with
  | case1 fresh path => exact ⟨fresh, absent, exhausts⟩
  | case2 fresh path trails ih =>
    refine ih (fun n cn hn s hs cs => ?_) absent failed
    rcases exhausts n cn hn s hs cs with done | ⟨trail, ht, hs⟩
    · exact .inl done
    · rcases List.mem_cons.1 ht with rfl | ht
      · cases hs
      · exact .inr ⟨trail, ht, hs⟩
  | case3 => cases failed
  | case4 fresh path next more trails ne entered ih =>
    refine ih (fun n cn hn s hs cs => ?_)
      (fun h => absent (Std.ExtTreeSet.mem_of_mem_erase h)) failed
    -- The node entered now brings its own successors, all still to be tried.
    by_cases new : n = next
    · subst new
      exact .inr ⟨successors n, by simp, hs⟩
    · have old : n ∉ fresh :=
        fun h => hn (Std.ExtTreeSet.mem_erase.2 ⟨by simpa using Ne.symm new, h⟩)
      rcases exhausts n cn old s hs cs with ⟨hne, hf⟩ | ⟨trail, ht, hs⟩
      · exact .inl ⟨hne, fun h => hf (Std.ExtTreeSet.mem_of_mem_erase h)⟩
      · rcases List.mem_cons.1 ht with rfl | ht
        · rcases List.mem_cons.1 hs with rfl | hs
          · exact .inl ⟨ne, by simp⟩
          · exact .inr ⟨more, by simp, hs⟩
        · exact .inr ⟨trail, by simp [ht], hs⟩
  | case5 fresh path next more trails ne notEntered ih =>
    refine ih (fun n cn hn s hs cs => ?_) absent failed
    rcases exhausts n cn hn s hs cs with done | ⟨trail, ht, hs⟩
    · exact .inl done
    · rcases List.mem_cons.1 ht with rfl | ht
      · rcases List.mem_cons.1 hs with rfl | hs
        · exact .inl ⟨ne, notEntered⟩
        · exact .inr ⟨more, by simp, hs⟩
      · exact .inr ⟨trail, by simp [ht], hs⟩

/-- If the search finds nothing, no way leads back to the start; all nodes on such ways must be
among those that it may enter. -/
theorem not_transGen_of_loopThrough? {R : α → α → Prop} (hR : ∀ a b, R a b ↔ b ∈ successors a)
    {nodes : Std.ExtTreeSet α}
    (all : ∀ n, Relation.TransGen R start n → Relation.TransGen R n start → n ∈ nodes)
    (failed : loopThrough? successors nodes start = none) : ¬ Relation.TransGen R start start := by
  -- Nodes from which no way leads back need not be listed, and do not count.
  let counts : α → Prop :=
    fun n => n = start ∨ (Relation.TransGen R start n ∧ Relation.TransGen R n start)
  have initial : Exhausts counts successors start (nodes.erase start) [successors start] := by
    intro n cn hn s hs _
    rcases cn with rfl | ⟨there, back⟩
    · exact .inr ⟨successors n, by simp, hs⟩
    · by_cases h : n = start
      · subst h
        exact .inr ⟨successors n, by simp, hs⟩
      · exact absurd (Std.ExtTreeSet.mem_erase.2 ⟨by simpa using Ne.symm h, all n there back⟩) hn
  obtain ⟨fresh, absent, exhausts⟩ := search_exhausts initial (by simp) failed
  have step : ∀ m n, counts m → m ∉ fresh → R m n → counts n → n ≠ start ∧ n ∉ fresh := by
    intro m n cm hm read cn
    rcases exhausts m cm hm n ((hR m n).1 read) cn with done | ⟨trail, ht, -⟩
    · exact done
    · cases ht
  have reached : ∀ n, Relation.TransGen R start n → Relation.TransGen R n start →
    n ≠ start ∧ n ∉ fresh := by
    intro n there back
    induction there with
    | single read => exact step _ _ (.inl rfl) absent read (.inr ⟨.single read, back⟩)
    | @tail m n there read ih =>
      have before := ih (.head read back)
      exact step m n (.inr ⟨there, .head read back⟩) before.2 read (.inr ⟨there.tail read, back⟩)
  exact fun h => (reached start h h).1 rfl

/-- The search finds a loop exactly if there is one. -/
theorem loopThrough?_isSome_iff {R : α → α → Prop} {nodes : Std.ExtTreeSet α}
    (hR : ∀ a b, R a b ↔ b ∈ successors a)
    (all : ∀ n, Relation.TransGen R start n → Relation.TransGen R n start → n ∈ nodes) :
    (loopThrough? successors nodes start).isSome = true ↔ Relation.TransGen R start start := by
  constructor
  · intro some
    obtain ⟨members, found⟩ := Option.isSome_iff_exists.1 some
    obtain rfl : R = fun a b => b ∈ successors a := by
      funext a b
      exact propext (hR a b)
    have loop := isLoop_of_loopThrough? found
    exact loop.transGen loop.start_mem loop.start_mem
  · intro way
    by_contra none
    rw [Bool.not_eq_true, Option.isSome_eq_false_iff, Option.isNone_iff_eq_none] at none
    exact not_transGen_of_loopThrough? hR all none way

end Spreadsheet.Graph
