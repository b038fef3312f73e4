import Spreadsheet.Proofs.Recalculation.Settling

/-!
# `Proofs/Recalculation/Soundness.lean` — settling keeps every cell sound

Values change under the cells that read them all through a pass, and a cell can be evaluated over
values that are about to change. What saves soundness is that whenever a value does change, the
cells that read it are taken out of the settled ones. The exception are the members of a loop,
which change together and stay settled; they have the error of a loop for a reason, each reading
another with it.

Each operation of a pass has one lemma for the cells that it leaves alone, which are undisturbed,
and one for those that it settles, if any. A pass then keeps all cells sound, whatever it does in
which order, and no assumption on the functions is needed: soundness itself asks for one only of
the cells whose formulas it speaks of.
-/

set_option autoImplicit false

namespace Spreadsheet.Workbook

variable {w : Workbook} {id x d : CellId} {c : Cell} {members : List CellId}

/-- A cell that begins to be evaluated disturbs no settled one. -/
theorem undisturbed_beginEvaluation (hc : w.cell? id = some c) (x : CellId) :
    Undisturbed w (w.beginEvaluation id) x := by
  refine (sameText_beginEvaluation hc).undisturbed (fun c' hc' settled => ?_) fun _ d _ =>
    .inl (settledValue_beginEvaluation hc d).symm
  rw [cell?_beginEvaluation hc] at hc'
  split at hc'
  · cases hc'
    exact absurd settled CellState.not_settled_evaluating
  · exact hc'

theorem sound_beginEvaluation (hc : w.cell? id = some c) (sound : w.Sound x) :
    (w.beginEvaluation id).Sound x :=
  (undisturbed_beginEvaluation hc x).sound (sameText_beginEvaluation hc) sound

/-- A cell that is settled after an evaluation reads no value that has changed: if the one evaluated
comes to another, its readers are queued. -/
theorem close_evaluateCell (wired : w.Wired) (hc : w.cell? id = some c)
    (settled : (w.evaluateCell id).IsSettled x) (hd : w.Reads x d) :
    (w.settledValue d).Close ((w.evaluateCell id).settledValue d) := by
  obtain ⟨s, -, -, cell, marked, -, rest⟩ := evaluateCell_spec hc
  rw [marked.settledValue]
  -- The only value that can change is that of the cell that is evaluated.
  by_cases hid : d = id
  · subst hid
    rcases rest with ⟨same, -⟩ | ⟨-, unsettled⟩
    · right
      rw [settledValue_of_cell? hc,
        settledValue_of_cell? (c := w.evaluatedCell d c) (by rw [cell, if_pos rfl])]
      exact same
    · exact absurd settled (unsettled x ((wired.mem_dependentsOf x d).2 hd))
  · exact .inl (settledValue_congr (by rw [cell, if_neg hid])).symm

/-- An evaluation disturbs no other cell that it leaves settled. -/
theorem undisturbed_evaluateCell (wired : w.Wired) (hc : w.cell? id = some c) (hx : x ≠ id) :
    Undisturbed w (w.evaluateCell id) x := by
  obtain ⟨s, -, -, cell, marked, -⟩ := evaluateCell_spec hc
  refine (sameText_evaluateCell hc).undisturbed (fun c' hc' settled => ?_) fun settled d hd =>
    close_evaluateCell wired hc settled hd
  have hs := marked.cell?_of_settled hc' settled
  rwa [cell, if_neg hx] at hs

/-- If the evaluated cell is settled, it is on what its content came to. -/
theorem eq_evaluatedCell_of_settled (hc : w.cell? id = some c) {c' : Cell}
    (hc' : (w.evaluateCell id).cell? id = some c') (settled : c'.state.Settled) :
    c' = w.evaluatedCell id c := by
  obtain ⟨s, -, -, cell, marked, -⟩ := evaluateCell_spec hc
  have hs := marked.cell?_of_settled hc' settled
  rw [cell, if_pos rfl] at hs
  exact (Option.some.inj hs).symm

theorem consistent_evaluateCell_self (wired : w.Wired) (hc : w.cell? id = some c)
    (compiled : w.CompiledAt id) :
    (w.evaluateCell id).Consistent id := by
  have text := sameText_evaluateCell hc
  intro c' hc' settled lawful proper
  cases eq_evaluatedCell_of_settled hc hc' settled
  have lawful : c.compiled.content.Lawful w.registry := by
    rw [← text.registry]
    exact lawful
  left
  refine evaluated_same lawful (.inl text.now.symm) (fun e he => ?_) (fun e he d hd => ?_)
  · exact looksAlike_of_eq text.settings text.registry text.sheets fun d _ => text.tombstone d
  · have reads := (compiled.reads_iff hc he).2 hd
    exact (close_evaluateCell wired hc ⟨_, hc', settled⟩ reads).same
      (proper d (by rw [text.reads]; exact reads))

theorem traced_evaluateCell_self (wired : w.Wired) (hc : w.cell? id = some c)
    (compiled : w.CompiledAt id) :
    (w.evaluateCell id).Traced id := by
  have text := sameText_evaluateCell hc
  intro c' hc' settled safe contains
  cases eq_evaluatedCell_of_settled hc hc' settled
  have safe : c.compiled.content.CycleSafe w.registry := by
    rw [← text.registry]
    exact safe
  obtain ⟨e, he, d, hd, hcd⟩ := evaluated_contains_cycle safe contains
  have reads := (compiled.reads_iff hc he).2 hd
  exact ⟨d, by rw [text.reads]; exact reads,
    (close_evaluateCell wired hc ⟨_, hc', settled⟩ reads).contains hcd⟩

/-- Evaluating a cell makes it sound, and leaves no cell settled to which that makes a
difference. -/
theorem sound_evaluateCell (wired : w.Wired) (hc : w.cell? id = some c) (all : ∀ x, w.Sound x)
    (x : CellId) :
    (w.evaluateCell id).Sound x := by
  have text := sameText_evaluateCell hc
  by_cases hx : x = id
  · subst hx
    have compiled := (all x).compiled
    exact ⟨text.compiledAt compiled, fun _ => consistent_evaluateCell_self wired hc compiled,
      traced_evaluateCell_self wired hc compiled⟩
  · exact (undisturbed_evaluateCell wired hc hx).sound text (all x)

/-- Settling a loop disturbs no cell outside that it leaves settled. -/
theorem undisturbed_settleLoop (wired : w.Wired) (hx : x ∉ members) :
    Undisturbed w (w.settleLoop members) x := by
  obtain ⟨s, -, -, cell, marked, readers, -⟩ := settleLoop_spec members w
  refine (sameText_settleLoop members w).undisturbed (fun c hc settled => ?_)
    (fun settled d hd => ?_)
  · have hs := marked.cell?_of_settled hc settled
    rwa [cell, if_neg hx] at hs
  · left
    rw [marked.settledValue]
    -- No reader of a member is left settled outside the loop.
    have out : d ∉ members :=
      fun mem => readers d mem x ((wired.mem_dependentsOf x d).2 hd) hx settled
    exact (settledValue_congr (by rw [cell, if_neg out])).symm

/-- Every member of a loop is settled on the error, and reads another one that is. -/
theorem settleLoop_of_mem (loop : ∀ m ∈ members, ∃ n ∈ members, w.Reads m n) (hx : x ∈ members) :
    (w.settleLoop members).settledValue x = .error .cycle ∧
      ∃ d, (w.settleLoop members).Reads x d ∧
      (w.settleLoop members).settledValue d = .error .cycle := by
  obtain ⟨s, -, -, cell, marked, -⟩ := settleLoop_spec members w
  -- Members are written cells, because they read something.
  have cyclic : ∀ m ∈ members, (w.settleLoop members).settledValue m = .error .cycle := by
    intro m hm
    obtain ⟨n, -, reads⟩ := loop m hm
    obtain ⟨c, hc⟩ := reads.cell?
    rw [marked.settledValue,
      settledValue_of_cell? (c := cyclicCell c) (by rw [cell, if_pos hm, hc]; rfl)]
    rfl
  obtain ⟨n, hn, reads⟩ := loop x hx
  refine ⟨cyclic x hx, n, ?_, cyclic n hn⟩
  rw [(sameText_settleLoop members w).reads]
  exact reads

theorem consistent_settleLoop_of_mem (loop : ∀ m ∈ members, ∃ n ∈ members, w.Reads m n)
    (hx : x ∈ members) :
    (w.settleLoop members).Consistent x := by
  obtain ⟨own, read⟩ := settleLoop_of_mem loop hx
  intro c hc _ _ _
  exact .inr ⟨(settledValue_of_cell? hc).symm.trans own, read⟩

/-- Settling a loop leaves its members with a reason for the error: each reads one that has it. -/
theorem sound_settleLoop (wired : w.Wired) (loop : ∀ m ∈ members, ∃ n ∈ members, w.Reads m n)
    (all : ∀ x, w.Sound x) (x : CellId) : (w.settleLoop members).Sound x := by
  have text := sameText_settleLoop members w
  by_cases hx : x ∈ members
  · refine ⟨text.compiledAt (all x).compiled, fun _ => consistent_settleLoop_of_mem loop hx,
      fun c _ _ _ _ => ?_⟩
    obtain ⟨-, d, reads, cyclic⟩ := settleLoop_of_mem loop hx
    refine ⟨d, reads, ?_⟩
    rw [cyclic]
    exact .error
  · exact (undisturbed_settleLoop wired hx).sound text (all x)

end Spreadsheet.Workbook
