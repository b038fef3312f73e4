import Spreadsheet.Proofs.Recalculation.Meaning
import Spreadsheet.Proofs.Workbook.Footprint
import Spreadsheet.Proofs.Workbook.Recompiled

/-!
# `Proofs/Recalculation/Rewriting.lean` — typing into a cell what it holds

Typing the text of a cell into it once more is what a new sheet and a new function do to the
formulas that name them. One would like it to change nothing. It does change something: the edges
of the cell are taken out before they are put in again, and a tombstone goes with its last edge.
So a formula that was the only one to read a cleared cell finds an empty cell there afterwards,
and no longer a reference that is not valid (`rewriting_can_revive`).

That is all that can go wrong. Tombstones that another cell reads stay, and if all are of that
kind that the formula names, every cell settles on the value that it had
(`rewriting_keeps_values`).
-/

set_option autoImplicit false

namespace Spreadsheet.Workbook

variable {w w' v : Workbook} {id x y d : CellId} {c : Cell} {raw : String}

/-! ## Tombstones -/

/-- A write leaves the tombstones that another cell reads. -/
theorem isTombstone_writeCell (wired : w.Wired) (id : CellId) (raw : String) (d : CellId) :
    (w.writeCell id raw).isTombstone d = true ↔
      d ≠ id ∧ w.isTombstone d = true ∧ ∃ x, x ≠ id ∧ w.Reads x d := by
  have unlinked := dropped_unlink w id
  rw [(marked_writeCell wired id raw).1.text.tombstone,
    isTombstone_of_insert_live (slots_placed w id raw)]
  by_cases hd : d = id
  · simp [hd]
  simp only [hd, if_false, ne_eq, not_false_eq_true, true_and]
  constructor
  · intro h
    obtain ⟨was, kept⟩ := unlinked.tombstone d h
    obtain ⟨y, hy⟩ := wired.tombstone d was
    obtain ⟨x, hx⟩ := kept ⟨y, (wired.mem_dependentsOf y d).2 hy⟩
    obtain ⟨reads, ne⟩ := wired.mem_dependentsOf_unlink.1 hx
    exact ⟨was, x, ne, reads⟩
  · rintro ⟨was, x, ne, reads⟩
    rw [unlinked.kept d ⟨x, wired.mem_dependentsOf_unlink.2 ⟨reads, ne⟩⟩, was]

/-- Compiling a cell again leaves the tombstones that another cell reads. -/
theorem isTombstone_recompile (wired : w.Wired) (hc : w.cell? id = some c) (d : CellId) :
    (w.recompile id).isTombstone d = true ↔ w.isTombstone d = true ∧ ∃ x, x ≠ id ∧ w.Reads x d := by
  rw [recompile_of_cell? hc, isTombstone_writeCell wired, and_iff_right_iff_imp]
  rintro ⟨tombstone, -⟩ rfl
  rw [isTombstone_eq_false_of_cell? hc] at tombstone
  cases tombstone

/-! ## What is typed stays -/

theorem typedAlike_recompile (wired : w.Wired) (id : CellId) : TypedAlike w (w.recompile id) := by
  obtain ⟨settings, registry, sheets, -⟩ := compile_recompile wired id
  refine ⟨settings, registry, sheets, fun x => ?_⟩
  rcases cell?_recompile wired id x with ⟨none', none⟩ | ⟨c, c', hc, hc', raw, -⟩
  · rw [none', none]
  · rw [hc, hc', Option.map_some, Option.map_some, raw]

/-- Two readers keep a tombstone, even if both are compiled again. -/
theorem Outgrown.isTombstone_foldl (ids : List CellId) (outgrown : w.Outgrown) (wired : w.Wired)
    (ne : x ≠ y) (hx : w.Reads x d) (hy : w.Reads y d) (h : w.isTombstone d = true) :
    (ids.foldl Workbook.recompile w).isTombstone d = true := by
  induction ids generalizing w with
  | nil => exact h
  | cons id ids ih =>
    obtain ⟨outgrown', keeps⟩ := outgrown.recompile wired id
    refine ih outgrown' (compile_recompile wired id).2.2.2 (keeps x d hx) (keeps y d hy) ?_
    cases hc : w.cell? id with
    | none =>
      unfold Workbook.recompile
      rwa [hc]
    | some c =>
      rw [isTombstone_recompile wired hc]
      by_cases hid : x = id
      · exact ⟨h, y, fun hy => ne (hid.trans hy.symm), hy⟩
      · exact ⟨h, x, hid, hx⟩

/-- A tombstone that two cells read survives new sheets and new functions. -/
theorem Coherent.isTombstone_of_two (coherent : w.Coherent) (ne : x ≠ y) (hx : w.Reads x d)
    (hy : w.Reads y d) (h : w.isTombstone d = true) :
    (∀ f order, (w.addFunction f order).isTombstone d = true) ∧
      ∀ name order sheet w', w.addSheet name order = .ok (sheet, w') → w'.isTombstone d = true := by
  constructor
  · intro f order
    let added : Workbook :=
      { w with registry := w.registry.insert f, calls := w.calls.reset f.name }
    have wired : added.Wired := coherent.wired.of_records rfl rfl
    have outgrown : added.Outgrown := coherent.outgrown rfl rfl fun _ _ _ found => found
    exact outgrown.isTombstone_foldl _ wired ne hx hy h
  · intro name order sheet w' added
    rcases addSheet_cases added with rfl | ⟨name, a, rfl, rfl⟩
    · exact h
    · let added : Workbook := { w with sheets := w.sheets ++ [name] }
      have wired : added.Wired := coherent.wired.of_records rfl rfl
      have outgrown : added.Outgrown := coherent.outgrown rfl rfl (sheetOf?_of_append rfl)
      exact outgrown.isTombstone_foldl _ wired ne hx hy h

/-! ## Values -/

/-- Every cleared cell that the formula of a cell names on its own is read by another cell too. -/
def SharesCleared (w : Workbook) (id : CellId) : Prop :=
  ∀ c e a d, w.cell? id = some c → c.compiled.content = .formula e → .cell a ∈ e.parts →
    w.resolve? id.sheet a = some d → w.isTombstone d = true → ∃ x, x ≠ id ∧ w.Reads x d

/-- A formula sees a workbook as before if the tombstones that it names have another reader than
the cell that was compiled again. -/
theorem Coherent.seesAlike_recompile (coherent : w.Coherent) (hc : w.cell? id = some c) {e : Expr}
    (shares : ∀ a d, .cell a ∈ e.parts → w.resolve? x.sheet a = some d → w.isTombstone d = true →
      ∃ y, y ≠ id ∧ w.Reads y d) : SeesAlike w (w.recompile id) x.sheet e := by
  obtain ⟨settings, registry, sheets, -⟩ := compile_recompile coherent.wired id
  refine seesAlike_of_eq settings registry sheets fun a d ha hd => ?_
  rw [Bool.eq_iff_iff, isTombstone_recompile coherent.wired hc]
  exact and_iff_left_of_imp (shares a d ha hd)

/-- Other cells than the one that was compiled again see the workbook as before. -/
theorem Coherent.seesAlike_recompile_of_ne (coherent : w.Coherent) (hc : w.cell? id = some c)
    (hx : x ≠ id) {e : Expr} {c' : Cell} (hc' : w.cell? x = some c')
    (he : c'.compiled.content = .formula e) :
    SeesAlike w (w.recompile id) x.sheet e := by
  refine coherent.seesAlike_recompile hc fun a d ha hd _ => ⟨x, hx, ?_⟩
  exact ((coherent.sound x (by simp)).compiled.reads_iff hc' he).2 (mem_precedentsOn_of_cell ha hd)

/-- What a pass makes of a settled workbook after a cell was compiled again. -/
theorem Coherent.same_of_recompile (coherent : w.Coherent) (settled : w.AllSettled)
    (acyclic : w.Acyclic) (pure : w.Pure) (hc : w.cell? id = some c) {steps : Nat}
    (drained : (w.recompile id).drain steps = some w') (x : CellId) (sees : ∀ c e,
        Relation.ReflTransGen w.Reads x id → w.cell? id = some c → c.compiled.content = .formula e →
      SeesAlike w (w.recompile id) id.sheet e) : (w'.settledValue x).Same (w.settledValue x) := by
  have coherent' : (w.recompile id).Coherent := by
    rw [recompile_of_cell? hc]
    exact coherent.writeCell id c.raw
  have alike := typedAlike_recompile coherent.wired id
  have acyclic' := alike.acyclic coherent coherent' acyclic
  have pure' := alike.pure coherent coherent' pure
  -- Both are what the cell means, before the write and after it.
  have before := coherent.same_meaning settled acyclic pure x
  have after := coherent'.drain_same_meaning acyclic' pure' drained x
  have means : (w.meaning acyclic x).Same ((w.recompile id).meaning acyclic' x) := by
    refine alike.same_meaning coherent coherent' acyclic acyclic' pure.lawful (.inr pure.stable) x
      fun y c' e path hc' he => ?_
    by_cases hy : y = id
    · subst hy
      exact sees c' e path hc' he
    · exact coherent.seesAlike_recompile_of_ne hc hy hc' he
  exact after.trans (before.trans means).symm

/-- What a formula finds at a cleared cell that it named on its own. -/
theorem Coherent.cell_of_recompile (coherent : w.Coherent) (hc : w.cell? id = some c) {steps : Nat}
    (drained : (w.recompile id).drain steps = some w') {a : Address}
    (ha : w.resolve? id.sheet a = some d) (tombstone : w.isTombstone d = true) :
    (w.environment id.sheet).cell a = .error .badReference ∧
      ((∃ x, x ≠ id ∧ w.Reads x d) → (w'.environment id.sheet).cell a = .error .badReference) ∧
      ((¬ ∃ x, x ≠ id ∧ w.Reads x d) → (w'.environment id.sheet).cell a = .blank) := by
  have coherent' : (w.recompile id).Coherent := by
    rw [recompile_of_cell? hc]
    exact coherent.writeCell id c.raw
  have text := (coherent'.drain drained).2.2
  have alike := typedAlike_recompile coherent.wired id
  have resolve : w'.resolve? id.sheet a = some d := by
    unfold resolve? sheetOf? sheetNamed? at ha ⊢
    rwa [text.sheets, alike.sheets]
  -- The tombstone stays as long as somebody else reads it.
  have left : w'.isTombstone d = true ↔ ∃ x, x ≠ id ∧ w.Reads x d := by
    rw [text.tombstone, isTombstone_recompile coherent.wired hc, tombstone]
    simp
  have gone : w'.settledValue d = .blank := by
    have none := alike.cell?_eq_none (cell?_of_isTombstone tombstone)
    exact settledValue_of_none ((WrittenAlike.of_sameText text).typed.cell?_eq_none none)
  simp only [← environmentOver_settledValue, environmentOver_cell, ha, resolve, tombstone,
    if_true, true_and]
  constructor
  · intro shared
    rw [if_pos (left.2 shared)]
  · intro alone
    rw [if_neg fun h => alone (left.1 h), gone]

/-- **Typing into a cell what it holds** takes away the tombstones that no other cell reads, and
nothing else. So in a settled workbook without loops the value of a cell stays what it is unless
it comes from the cell that was typed into, and all values do if every cleared cell that its
formula names on its own has another reader. A formula that names one without another reader finds
no invalid reference there any more, but an empty cell.

New sheets and functions do the same to the formulas that name them, one by one: a tombstone that
two cells read survives them. -/
theorem rewriting_keeps_values (reachable : w.Reachable) (hc : w.cell? id = some c) :
    w.recompile id = w.writeCell id c.raw ∧
      (∀ d, (w.recompile id).isTombstone d = true ↔
        w.isTombstone d = true ∧ ∃ x, x ≠ id ∧ w.Reads x d) ∧
      (∀ x y d, x ≠ y → w.Reads x d → w.Reads y d → w.isTombstone d = true →
        (∀ f order, (w.addFunction f order).isTombstone d = true) ∧
          ∀ name order sheet w', w.addSheet name order = .ok (sheet, w') →
          w'.isTombstone d = true) ∧
      (w.AllSettled → w.Acyclic → w.Pure →
        (∃ steps w', (w.recompile id).drain steps = some w') ∧
          ∀ steps w', (w.recompile id).drain steps = some w' →
            (∀ x, ¬ Relation.ReflTransGen w.Reads x id →
              (w'.settledValue x).Same (w.settledValue x)) ∧
              (w.SharesCleared id → ∀ x, (w'.settledValue x).Same (w.settledValue x)) ∧
              ∀ a d, w.resolve? id.sheet a = some d → w.isTombstone d = true →
                (w.environment id.sheet).cell a = .error .badReference ∧
                  ((∃ x, x ≠ id ∧ w.Reads x d) →
                    (w'.environment id.sheet).cell a = .error .badReference) ∧
                  ((¬ ∃ x, x ≠ id ∧ w.Reads x d) → (w'.environment id.sheet).cell a = .blank)) := by
  have coherent := reachable.coherent
  refine ⟨recompile_of_cell? hc, isTombstone_recompile coherent.wired hc,
    fun x y d ne hx hy => coherent.isTombstone_of_two ne hx hy,
    fun settled acyclic pure => ⟨?_, ?_⟩⟩
  · have coherent' : (w.recompile id).Coherent := by
      rw [recompile_of_cell? hc]
      exact coherent.writeCell id c.raw
    exact coherent'.exists_drain
      ((typedAlike_recompile coherent.wired id).acyclic coherent coherent' acyclic)
  · intro steps w' drained
    -- A cell is compared with its meaning before; it differs at most where a formula sees a
    -- tombstone gone.
    refine ⟨fun x off => ?_, fun shares x => ?_,
      fun a d ha => coherent.cell_of_recompile hc drained ha⟩
    · exact coherent.same_of_recompile settled acyclic pure hc drained x fun _ _ path =>
        absurd path off
    · refine coherent.same_of_recompile settled acyclic pure hc drained x fun c' e _ hc' he => ?_
      exact coherent.seesAlike_recompile hc fun a d => shares c' e a d hc' he

/-- A cell that was cleared, and two that read it. -/
theorem rewriting_keeps_values_of_shared :
    ∃ w w' : Workbook, w.isTombstone ⟨0, ⟨0, 0⟩⟩ = true ∧
      (w.settledValue ⟨0, ⟨0, 1⟩⟩).error? = some .badReference ∧
      (w.recompile ⟨0, ⟨0, 1⟩⟩).drain 20 = some w' ∧ w'.isTombstone ⟨0, ⟨0, 0⟩⟩ = true ∧
      (∀ x, (w'.settledValue x).Same (w.settledValue x)) := by
  let written :=
    (((create Settings.default ⟨⟨2000, 1, 1⟩, 0⟩ 0).writeCell ⟨0, ⟨0, 0⟩⟩ "5").writeCell ⟨0, ⟨0, 1⟩⟩
    "=A1").writeCell ⟨0, ⟨0, 2⟩⟩ "=A1+B1"
  have reachable : written.Reachable := (((reachable_create _ _ _ _).write _ _).write _ _).write _ _
  have reachable₁ : (written.clearCell ⟨0, ⟨0, 0⟩⟩).Reachable := reachable.clear _
  let w := ((written.clearCell ⟨0, ⟨0, 0⟩⟩).drain 20).get (by decide +kernel)
  have drained : (written.clearCell ⟨0, ⟨0, 0⟩⟩).drain 20 = some w := (Option.some_get _).symm
  have reachable₂ : w.Reachable := reachable₁.drain drained
  let c := (w.cell? ⟨0, ⟨0, 1⟩⟩).get (by decide +kernel)
  have hc : w.cell? ⟨0, ⟨0, 1⟩⟩ = some c := (Option.some_get _).symm
  let w' := ((w.recompile ⟨0, ⟨0, 1⟩⟩).drain 20).get (by decide +kernel)
  have drained' : (w.recompile ⟨0, ⟨0, 1⟩⟩).drain 20 = some w' := (Option.some_get _).symm
  have reads : (w.precedentsOf ⟨0, ⟨0, 1⟩⟩).toList = [⟨0, ⟨0, 0⟩⟩] ∧
      ⟨0, ⟨0, 0⟩⟩ ∈ (w.precedentsOf ⟨0, ⟨0, 2⟩⟩).toList := by decide +kernel
  have shares : w.SharesCleared ⟨0, ⟨0, 1⟩⟩ := by
    intro c e a d hc he ha hd _
    have mem := ((reachable₂.coherent.sound _ (by simp)).compiled.reads_iff hc he).2
      (mem_precedentsOn_of_cell ha hd)
    rw [Reads, ← Std.ExtTreeSet.mem_toList, reads.1, List.mem_singleton] at mem
    exact ⟨⟨0, ⟨0, 2⟩⟩, by decide, mem ▸ Std.ExtTreeSet.mem_toList.1 reads.2⟩
  obtain ⟨-, -, -, values⟩ := rewriting_keeps_values reachable₂ hc
  obtain ⟨-, keeps⟩ := values (reachable₁.coherent.drain drained).2.1 (by decide +kernel)
    (.of_callsOnly (by decide +kernel))
  exact ⟨w, w', by decide +kernel, by decide +kernel, drained', by decide +kernel,
    (keeps 20 w' drained').2.1 shares⟩

/-- A cleared cell that one formula alone reads is no invalid reference any more once that formula
was typed in again. -/
theorem rewriting_can_revive :
    ∃ w w' : Workbook, w.Reachable ∧ w.AllSettled ∧ w.Acyclic ∧ w.Pure ∧
      w.isTombstone ⟨0, ⟨0, 0⟩⟩ = true ∧
      ((w.cell? ⟨0, ⟨0, 1⟩⟩).map Cell.raw) = some "=A1" ∧
      (w.writeCell ⟨0, ⟨0, 1⟩⟩ "=A1").drain 20 = some w' ∧
      (w.settledValue ⟨0, ⟨0, 1⟩⟩).error? = some .badReference ∧
      ¬ (w'.settledValue ⟨0, ⟨0, 1⟩⟩).Same (w.settledValue ⟨0, ⟨0, 1⟩⟩) := by
  let written := ((create Settings.default ⟨⟨2000, 1, 1⟩, 0⟩ 0).writeCell ⟨0, ⟨0, 0⟩⟩ "5").writeCell
    ⟨0, ⟨0, 1⟩⟩ "=A1"
  have reachable : written.Reachable := ((reachable_create _ _ _ _).write _ _).write _ _
  have reachable₁ : (written.clearCell ⟨0, ⟨0, 0⟩⟩).Reachable := reachable.clear _
  let w := ((written.clearCell ⟨0, ⟨0, 0⟩⟩).drain 20).get (by decide +kernel)
  have drained : (written.clearCell ⟨0, ⟨0, 0⟩⟩).drain 20 = some w := (Option.some_get _).symm
  let w' := ((w.writeCell ⟨0, ⟨0, 1⟩⟩ "=A1").drain 20).get (by decide +kernel)
  have error : (w.settledValue ⟨0, ⟨0, 1⟩⟩).error? = some .badReference := by decide +kernel
  refine ⟨w, w', reachable₁.drain drained,
    (reachable₁.coherent.drain drained).2.1, by decide +kernel,
    .of_callsOnly (by decide +kernel), by decide +kernel, by decide +kernel,
    (Option.some_get _).symm, error, fun same => ?_⟩
  have same := same.error?_eq
  rw [error] at same
  revert same
  decide +kernel

end Spreadsheet.Workbook
