import Spreadsheet.Proofs.Recalculation.Reports
import Spreadsheet.Proofs.Recalculation.Termination

/-!
# `Proofs/Recalculation/Meaning.lean` — a pass finds what a workbook means

Without loops, every cell has a meaning that knows nothing of passes: a literal is itself, a
formula is what evaluation makes of the meanings of the cells that it reads (`meaning`).
Recalculation does not follow this recursion. It evaluates cells over whatever is on record, more
than once if need be, and stops passing on what has not changed. It comes to the same: in a
settled workbook every value is consistent with the values read, and by induction on what cells
read there is only one way for all of them to be.

As the meaning depends on nothing but what was written, two workbooks in which the same was written
agree after a pass, whatever was done to get to either.
-/

set_option autoImplicit false

namespace Spreadsheet.Workbook

variable {w w' v : Workbook} {id x : CellId} {c : Cell}

/-! ## Meaning -/

/-- What a cell comes to, if the cells had some values. -/
def denotedOver (w : Workbook) (values : CellId → Value) (id : CellId) : Value :=
  match w.cell? id with
  | some c => w.contentOver values id.sheet c.compiled.content
  | none => .blank

/-- Without loops, following what cells read comes to an end. -/
theorem Acyclic.wellFounded (acyclic : w.Acyclic) : WellFounded fun d x => w.Reads x d :=
  Subrelation.wf (fun reads => rank_lt reads (acyclic _)) (InvImage.wf w.rank Nat.lt_wfRel.wf)

open Classical in
/-- What a cell means: what it comes to over the meanings of the cells that it reads. -/
noncomputable def meaning (w : Workbook) (acyclic : w.Acyclic) : CellId → Value :=
  acyclic.wellFounded.fix fun id meaning =>
    w.denotedOver (fun d => if reads : w.Reads id d then meaning d reads else .blank) id

open Classical in
theorem meaning_eq (acyclic : w.Acyclic) (id : CellId) :
    w.meaning acyclic id =
    w.denotedOver (fun d => if w.Reads id d then w.meaning acyclic d else .blank) id := by
  unfold meaning
  rw [WellFounded.fix_eq]
  simp only [dite_eq_ite]

theorem meaning_of_cell? (acyclic : w.Acyclic) (hc : w.cell? id = some c) :
    ∃ values, (∀ d, w.Reads id d → values d = w.meaning acyclic d) ∧
      w.meaning acyclic id = w.contentOver values id.sheet c.compiled.content := by
  classical
  refine ⟨fun d => if w.Reads id d then w.meaning acyclic d else .blank,
    fun d reads => if_pos reads, ?_⟩
  rw [meaning_eq]
  unfold denotedOver
  rw [hc]

theorem meaning_of_none (acyclic : w.Acyclic) (hc : w.cell? id = none) :
    w.meaning acyclic id = .blank := by
  rw [meaning_eq]
  unfold denotedOver
  rw [hc]

/-! ## What is assumed of functions -/

/-- All formulas call stable functions only, which are determined by their arguments and do not
make up the error of a loop; and no formula has a not-a-number in it. -/
structure Pure (w : Workbook) : Prop where
  lawful : w.EachFormula Expr.Lawful
  stable : w.EachFormula Expr.Stable
  safe : w.EachFormula Expr.CycleSafe

/-- Formulas without functions and powers need no assumptions. -/
theorem Pure.of_callsOnly (none : w.formulasWhere (fun e => !e.callsOnly []) = []) : w.Pure where
  lawful := eachFormula_of_callsOnly none fun _ h => Expr.lawful_of_callsOnly h nofun
  stable := eachFormula_of_callsOnly none fun _ h => Expr.stable_of_callsOnly h nofun
  safe := eachFormula_of_callsOnly none fun _ h => Expr.cycleSafe_of_callsOnly h nofun

/-! ## Settled workbooks -/

/-- A settled workbook without loops in which every cell is consistent holds what it means. -/
theorem Coherent.same_meaning_of_consistent (coherent : w.Coherent) (settled : w.AllSettled)
    (acyclic : w.Acyclic) (lawful : w.EachFormula Expr.Lawful) (safe : w.EachFormula Expr.CycleSafe)
    (consistent : ∀ x, w.Consistent x) (x : CellId) :
    (w.settledValue x).Same (w.meaning acyclic x) := by
  -- By induction on what cells read, which is well-founded where there are no loops.
  induction x using acyclic.wellFounded.induction with
  | _ x ih =>
    cases hc : w.cell? x with
    | none =>
      rw [meaning_of_none acyclic hc, settledValue_of_none hc]
      exact .scalar rfl
    | some c =>
      -- The cell is consistent with values that are, by induction, what the cells that it reads
      -- mean.
      have compiled := (coherent.sound x (by simp)).compiled
      have lawful := lawful.content_lawful compiled hc
      rcases consistent x c hc (settled x c hc) lawful fun d reads => (ih d reads).refl_left with
        same | ⟨cyclic, -⟩
      · obtain ⟨values, agree, eq⟩ := meaning_of_cell? acyclic hc
        rw [settledValue_of_cell? hc, eq]
        rw [evaluated_eq] at same
        refine same.trans (contentOver_same lawful (.inl rfl) (fun e he => ?_) fun e he d hd => ?_)
        · exact looksAlike_of_eq rfl rfl rfl fun _ _ => rfl
        · have reads := (compiled.reads_iff hc he).2 hd
          rw [agree d reads]
          exact ih d reads
      · -- The error of a loop would have come from one.
        obtain ⟨y, -, loop⟩ := coherent.exists_onLoop settled safe (x := x) (by
          rw [settledValue_of_cell? hc, cyclic]
          exact .error)
        exact absurd loop (acyclic y)

/-- Where only stable functions are called, every settled cell is consistent. -/
theorem Coherent.same_meaning (coherent : w.Coherent) (settled : w.AllSettled) (acyclic : w.Acyclic)
    (pure : w.Pure) (x : CellId) : (w.settledValue x).Same (w.meaning acyclic x) :=
  coherent.same_meaning_of_consistent settled acyclic pure.lawful pure.safe
    (fun x => (coherent.sound x (by simp)).consistent (pure.stable.stableAt x)) x

/-! ## What was written decides -/

/-- What was typed, unless it was cleared. -/
def typed? : Slot → Option String
  | .live c => some c.raw
  | .tombstone => none

/-- The inputs on record, in the order of cells. -/
def inputs (w : Workbook) : List (CellId × Option String) :=
  w.slots.toList.map fun (id, slot) => (id, typed? slot)

theorem mem_inputs {input : Option String} :
    (x, input) ∈ w.inputs ↔ (w.slots[x]?).map typed? = some input := by
  unfold inputs
  rw [List.mem_map, Option.map_eq_some_iff]
  constructor
  · rintro ⟨⟨id, slot⟩, mem, eq⟩
    cases eq
    exact ⟨slot, Std.ExtTreeMap.mem_toList_iff_getElem?_eq_some.1 mem, rfl⟩
  · rintro ⟨slot, found, rfl⟩
    exact ⟨(x, slot), Std.ExtTreeMap.mem_toList_iff_getElem?_eq_some.2 found, rfl⟩

theorem join_typed? (w : Workbook) (x : CellId) :
    ((w.slots[x]?).map typed?).join = (w.cell? x).map Cell.raw := by
  unfold cell?
  cases w.slots[x]? with
  | none => rfl
  | some slot => cases slot <;> rfl

theorem isTombstone_iff_typed? : w.isTombstone x = true ↔ (w.slots[x]?).map typed? = some none := by
  unfold isTombstone
  cases w.slots[x]? with
  | none => simp
  | some slot => cases slot <;> simp [typed?]

/-- The same is typed in the cells of two workbooks with the same sheets, functions and
configuration. Which cells were cleared is left open. -/
structure TypedAlike (w v : Workbook) : Prop where
  settings : v.settings = w.settings
  registry : v.registry = w.registry
  sheets : v.sheets = w.sheets
  raw (x : CellId) : (v.cell? x).map Cell.raw = (w.cell? x).map Cell.raw

namespace TypedAlike

theorem symm (alike : TypedAlike w v) : TypedAlike v w where
  settings := alike.settings.symm
  registry := alike.registry.symm
  sheets := alike.sheets.symm
  raw x := (alike.raw x).symm

/-- What was typed alike was compiled alike. -/
theorem cell? (alike : TypedAlike w v) (coherent : w.Coherent) (coherent' : v.Coherent)
    (hc : w.cell? x = some c) :
    ∃ c', v.cell? x = some c' ∧ c'.compiled = c.compiled := by
  have raw := alike.raw x
  rw [hc, Option.map_some, Option.map_eq_some_iff] at raw
  obtain ⟨c', hc', raw⟩ := raw
  refine ⟨c', hc', ?_⟩
  rw [(coherent'.sound x (by simp)).compiled c' hc',
    (coherent.sound x (by simp)).compiled c hc, raw,
    compile_congr alike.settings alike.registry alike.sheets]

theorem cell?_eq_none (alike : TypedAlike w v) (hc : w.cell? x = none) : v.cell? x = none := by
  have raw := alike.raw x
  rw [hc] at raw
  exact Option.map_eq_none_iff.1 raw

theorem reads (alike : TypedAlike w v) (coherent : w.Coherent) (coherent' : v.Coherent) :
    v.Reads = w.Reads := by
  have sub : ∀ {w v : Workbook}, TypedAlike w v → w.Coherent → v.Coherent → ∀ x d, w.Reads x d →
    v.Reads x d := by
    intro w v alike coherent coherent' x d reads
    obtain ⟨c, hc⟩ := reads.cell?
    obtain ⟨c', hc', compiled⟩ := alike.cell? coherent coherent' hc
    rw [reads_of_cell? hc', compiled]
    exact (reads_of_cell? hc).1 reads
  funext x d
  exact propext ⟨sub alike.symm coherent' coherent x d, sub alike coherent coherent' x d⟩

theorem acyclic (alike : TypedAlike w v) (coherent : w.Coherent) (coherent' : v.Coherent)
    (acyclic : w.Acyclic) :
    v.Acyclic := by
  intro id loop
  unfold OnLoop at loop
  rw [alike.reads coherent coherent'] at loop
  exact acyclic id loop

theorem eachFormula {P : Registry → Expr → Prop} (alike : TypedAlike w v) (coherent : w.Coherent)
    (coherent' : v.Coherent) (each : w.EachFormula P) : v.EachFormula P := by
  intro x c e hc he
  obtain ⟨c', hc', compiled⟩ := alike.symm.cell? coherent' coherent hc
  rw [alike.registry]
  exact each x c' e hc' (by rw [compiled, he])

theorem pure (alike : TypedAlike w v) (coherent : w.Coherent) (coherent' : v.Coherent)
    (pure : w.Pure) : v.Pure where
  lawful := alike.eachFormula coherent coherent' pure.lawful
  stable := alike.eachFormula coherent coherent' pure.stable
  safe := alike.eachFormula coherent coherent' pure.safe

/-- A cell means the same if no formula that it reads from, directly or through others, names a
cell that was cleared in one of the workbooks only, and if it is the same time in both or time
does not matter. -/
theorem same_meaning (alike : TypedAlike w v) (coherent : w.Coherent) (coherent' : v.Coherent)
    (acyclic : w.Acyclic) (acyclic' : v.Acyclic) (lawful : w.EachFormula Expr.Lawful)
    (clock : w.now = v.now ∨ w.EachFormula Expr.Stable) (x : CellId)
    (sees : ∀ y c e, Relation.ReflTransGen w.Reads x y → w.cell? y = some c →
        c.compiled.content = .formula e →
      SeesAlike w v y.sheet e) : (w.meaning acyclic x).Same (v.meaning acyclic' x) := by
  induction x using acyclic.wellFounded.induction with
  | _ x ih =>
    cases hc : w.cell? x with
    | none =>
      rw [meaning_of_none acyclic hc, meaning_of_none acyclic' (alike.cell?_eq_none hc)]
      exact .scalar rfl
    | some c =>
      obtain ⟨c', hc', compiled⟩ := alike.cell? coherent coherent' hc
      obtain ⟨values, agree, eq⟩ := meaning_of_cell? acyclic hc
      obtain ⟨values', agree', eq'⟩ := meaning_of_cell? acyclic' hc'
      have compiledAt := (coherent.sound x (by simp)).compiled
      rw [eq, eq', compiled]
      -- The formulas are the same and see the same tombstones, so that by induction on what cells
      -- read they come to the same.
      refine contentOver_same_of_sees (lawful.content_lawful compiledAt hc)
        (clock.imp_right fun stable => stable.stableAt x c hc)
        (fun e he => sees x c e .refl hc he) fun e he d hd => ?_
      have reads := (compiledAt.reads_iff hc he).2 hd
      rw [agree d reads, agree' d (by rwa [alike.reads coherent coherent'])]
      exact ih d reads fun y c e path => sees y c e (.head reads path)

end TypedAlike

/-- The same was written in two workbooks with the same sheets, functions and configuration. -/
structure WrittenAlike (w v : Workbook) : Prop where
  settings : v.settings = w.settings
  registry : v.registry = w.registry
  sheets : v.sheets = w.sheets
  raw (x : CellId) : (v.cell? x).map Cell.raw = (w.cell? x).map Cell.raw
  tombstone (x : CellId) : v.isTombstone x = w.isTombstone x

namespace WrittenAlike

theorem typed (alike : WrittenAlike w v) : TypedAlike w v :=
  ⟨alike.settings, alike.registry, alike.sheets, alike.raw⟩

theorem of_sameText (text : SameText w v) : WrittenAlike w v where
  settings := text.settings
  registry := text.registry
  sheets := text.sheets
  raw x := by
    have written := text.written x
    unfold Workbook.written at written
    have first := congrArg (Option.map Prod.fst) written
    rwa [Option.map_map, Option.map_map] at first
  tombstone := text.tombstone

/-- It is enough to compare the inputs on record, one after the other. -/
theorem of_inputs (settings : v.settings = w.settings) (registry : v.registry = w.registry)
    (sheets : v.sheets = w.sheets) (inputs : v.inputs = w.inputs) : WrittenAlike w v := by
  have record : ∀ x : CellId, (v.slots[x]?).map typed? = (w.slots[x]?).map typed? := by
    intro x
    ext input
    rw [← mem_inputs, ← mem_inputs, inputs]
  refine ⟨settings, registry, sheets, fun x => ?_, fun x => ?_⟩
  · have input := congrArg Option.join (record x)
    rwa [join_typed?, join_typed?] at input
  · rw [Bool.eq_iff_iff, isTombstone_iff_typed?, isTombstone_iff_typed?, record]

theorem acyclic (alike : WrittenAlike w v) (coherent : w.Coherent) (coherent' : v.Coherent)
    (acyclic : w.Acyclic) :
    v.Acyclic := alike.typed.acyclic coherent coherent' acyclic

theorem pure (alike : WrittenAlike w v) (coherent : w.Coherent) (coherent' : v.Coherent)
    (pure : w.Pure) : v.Pure :=
  alike.typed.pure coherent coherent' pure

/-- The same text means the same. -/
theorem same_meaning (alike : WrittenAlike w v) (coherent : w.Coherent) (coherent' : v.Coherent)
    (acyclic : w.Acyclic) (acyclic' : v.Acyclic) (lawful : w.EachFormula Expr.Lawful)
    (clock : w.now = v.now ∨ w.EachFormula Expr.Stable) (x : CellId) :
    (w.meaning acyclic x).Same (v.meaning acyclic' x) :=
  alike.typed.same_meaning coherent coherent' acyclic acyclic' lawful clock x fun _ _ _ _ _ _ =>
    seesAlike_of_eq alike.settings alike.registry alike.sheets fun _ d _ _ => alike.tombstone d

end WrittenAlike

/-! ## Passes -/

/-- What a pass leaves of a workbook without loops is what the workbook meant before. -/
theorem Coherent.drain_same_meaning (coherent : w.Coherent) (acyclic : w.Acyclic) (pure : w.Pure)
    {steps : Nat} (drained : w.drain steps = some w') (x : CellId) :
    (w'.settledValue x).Same (w.meaning acyclic x) := by
  obtain ⟨coherent', settled, text⟩ := coherent.drain drained
  have alike := WrittenAlike.of_sameText text
  have acyclic' := alike.acyclic coherent coherent' acyclic
  have pure' := alike.pure coherent coherent' pure
  exact (coherent'.same_meaning settled acyclic' pure' x).trans
    (alike.same_meaning coherent coherent' acyclic acyclic' pure.lawful (.inr pure.stable) x).symm

/-- **Recalculation finds the meaning.** Whatever was done to get to a workbook without loops, a
pass over it returns, and leaves every cell with what it means. So another workbook in which the
same was written has the same values after a pass. -/
theorem recalculation_finds_meaning (reachable : w.Reachable) (acyclic : w.Acyclic)
    (pure : w.Pure) :
    (∃ steps w', w.drain steps = some w') ∧
      (∀ steps w', w.drain steps = some w' → ∀ x c, w'.cell? x = some c →
        c.value.Same (w.meaning acyclic x)) ∧
      ∀ v : Workbook, v.Reachable → WrittenAlike w v →
        ∀ steps w' steps' v', w.drain steps = some w' →
        v.drain steps' = some v' → ∀ x, (w'.settledValue x).Same (v'.settledValue x) := by
  have coherent := reachable.coherent
  refine ⟨coherent.exists_drain acyclic, fun steps w' drained x c hc => ?_, ?_⟩
  · rw [← settledValue_of_cell? hc]
    exact coherent.drain_same_meaning acyclic pure drained x
  -- The values of either are those that it means, and the two mean the same.
  · intro v reachable' alike steps w' steps' v' drained drained' x
    have coherent' := reachable'.coherent
    have acyclic' := alike.acyclic coherent coherent' acyclic
    have pure' := alike.pure coherent coherent' pure
    have found := coherent.drain_same_meaning acyclic pure drained x
    have found' := coherent'.drain_same_meaning acyclic' pure' drained' x
    have means :=
      alike.same_meaning coherent coherent' acyclic acyclic' pure.lawful (.inr pure.stable) x
    exact (found.trans means).trans found'.symm

/-- Three cells as they were written, and the same after a loop among them was asked for its
values and broken again. -/
theorem recalculation_finds_meaning_of_three :
    ∃ w v w' v' : Workbook, WrittenAlike w v ∧ w.drain 30 = some w' ∧ v.drain 30 = some v' ∧
      (w'.settledValue ⟨0, ⟨0, 2⟩⟩).Same (v'.settledValue ⟨0, ⟨0, 2⟩⟩) ∧
      (w'.settledValue ⟨0, ⟨0, 2⟩⟩).isError = false ∧ v.isCyclic ⟨0, ⟨0, 2⟩⟩ = true ∧
      ∃ acyclic : w.Acyclic,
      (w'.settledValue ⟨0, ⟨0, 2⟩⟩).Same (w.meaning acyclic ⟨0, ⟨0, 2⟩⟩) := by
  let w := (((create Settings.default ⟨⟨2000, 1, 1⟩, 0⟩ 0).writeCell ⟨0, ⟨0, 2⟩⟩ "=A1+B1").writeCell
    ⟨0, ⟨0, 1⟩⟩
    "=A1*2").writeCell ⟨0, ⟨0, 0⟩⟩ "3"
  have reachable : w.Reachable := (((reachable_create _ _ _ _).write _ _).write _ _).write _ _
  let w' := (w.drain 30).get (by decide +kernel)
  have drained : w.drain 30 = some w' := (Option.some_get _).symm
  have reachable₁ : w'.Reachable := reachable.drain drained
  let looped := w'.writeCell ⟨0, ⟨0, 0⟩⟩ "=C1"
  have reachable₂ : looped.Reachable := reachable₁.write _ _
  let asked := (looped.drain 30).get (by decide +kernel)
  have drained₂ : looped.drain 30 = some asked := (Option.some_get _).symm
  have reachable₃ : asked.Reachable := reachable₂.drain drained₂
  let v := asked.writeCell ⟨0, ⟨0, 0⟩⟩ "3"
  let v' := (v.drain 30).get (by decide +kernel)
  have drained₃ : v.drain 30 = some v' := (Option.some_get _).symm
  -- In the end the same is typed in, whatever was in between.
  have alike : WrittenAlike w v := by
    have text := (reachable.coherent.drain drained).2.2
    have edited := edited_writeCell reachable₁.coherent.wired ⟨0, ⟨0, 0⟩⟩ "=C1"
    have text₂ := (reachable₂.coherent.drain drained₂).2.2
    have edited₂ := edited_writeCell reachable₃.coherent.wired ⟨0, ⟨0, 0⟩⟩ "3"
    refine .of_inputs ?_ ?_ ?_ (by decide +kernel)
    · exact edited₂.settings.trans (text₂.settings.trans (edited.settings.trans text.settings))
    · exact edited₂.registry.trans (text₂.registry.trans (edited.registry.trans text.registry))
    · exact edited₂.sheets.trans (text₂.sheets.trans (edited.sheets.trans text.sheets))
  have acyclic : w.Acyclic := by decide +kernel
  obtain ⟨c, hc⟩ : ∃ c, w'.cell? ⟨0, ⟨0, 2⟩⟩ = some c :=
    Option.isSome_iff_exists.1 (by decide +kernel)
  obtain ⟨-, means, agree⟩ :=
    recalculation_finds_meaning reachable acyclic (.of_callsOnly (by decide +kernel))
  refine ⟨w, v, w', v', alike, drained, drained₃, ?_, by decide +kernel, by decide +kernel,
    acyclic, ?_⟩
  · exact agree v (reachable₃.write _ _) alike 30 w' 30 v' drained drained₃ _
  · rw [settledValue_of_cell? hc]
    exact means 30 w' drained _ c hc

end Spreadsheet.Workbook
