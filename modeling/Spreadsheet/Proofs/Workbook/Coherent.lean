import Spreadsheet.Proofs.Function.Registry
import Spreadsheet.Proofs.Workbook.Sound

/-!
# `Proofs/Workbook/Coherent.lean` — edits keep a workbook coherent

Between operations a workbook is `Coherent`: who reads whom is on record both ways, every cell that
is not settled waits in the queue, and every cell is sound. Writing and clearing keep it so, because
they queue whatever they disturb.

A new sheet or function changes the meaning of formulas that name it all at once, and they are
compiled again one by one. In between, those still to come are the only cells that need not be
sound; so coherence is stated up to a list of cells, and each recompilation shortens the list.

The list of cells that need not be sound is the only hypothesis that differs between an edit and a
recompilation, so one lemma does for both (`CoherentBut.writeCell`): the cell that is written
leaves the list. With an empty list this is coherence.
-/

set_option autoImplicit false

namespace Spreadsheet.Workbook

variable {w w' : Workbook} {order : Enumeration} {id x d : CellId} {raw : String} {c : Cell}
    {e : Expr} {stale : List CellId}

/-! ## Edits and single cells -/

/-- An edit changes no value but that of the cell itself. -/
theorem Edited.settledValue (edited : Edited id w w') (hx : x ≠ id) :
    w'.settledValue x = w.settledValue x := by
  rcases edited.cell x hx with same | ⟨c, hc, -, hc', -⟩
  · unfold Workbook.settledValue
    rw [same]
  · rw [settledValue_of_cell? hc, settledValue_of_cell? hc']

theorem Edited.undisturbed (edited : Edited id w w') (compiled : w.CompiledAt x) (hx : x ≠ id) :
    Undisturbed w w' x := by
  have own : ∀ c, w'.cell? x = some c → c.state.Settled → w.cell? x = some c := by
    intro c hc settled
    rcases edited.cell x hx with same | ⟨c', -, -, hc', -⟩
    · rw [← same, hc]
    · rw [hc] at hc'
      cases hc'
      exact absurd settled CellState.not_settled_dirty
  -- Whoever reads the edited cell is queued, so a settled cell reads others only.
  have reads : ∀ {d}, w'.IsSettled x → w.Reads x d → w'.Reads x d ∧ d ≠ id := by
    intro d settled hd
    obtain ⟨c, hc, settled⟩ := settled
    have hd' : w'.Reads x d := (reads_of_cell? hc).2 ((reads_of_cell? (own c hc settled)).1 hd)
    refine ⟨hd', ?_⟩
    rintro rfl
    exact edited.readers x hd' ⟨c, hc, settled⟩
  constructor
  · exact own
  · intro settled d hd
    exact .inl (edited.settledValue (reads settled hd).2).symm
  · intro settled c e hc he
    refine looksAlike_of_eq edited.settings edited.registry edited.sheets fun d hd => ?_
    obtain ⟨hd', ne⟩ := reads settled ((compiled.reads_iff hc he).2 hd)
    exact edited.tombstone x d hx hd' ne

theorem Edited.sound (edited : Edited id w w') (sound : w.Sound x) (hx : x ≠ id) : w'.Sound x where
  compiled c hc := by
    rw [compile_congr edited.settings edited.registry edited.sheets]
    rcases edited.cell x hx with same | ⟨c', hc', -, queued, -⟩
    · exact sound.compiled c (same ▸ hc)
    · rw [hc] at queued
      cases queued
      exact sound.compiled c' hc'
  consistent stable := by
    have undisturbed := edited.undisturbed sound.compiled hx
    refine undisturbed.consistent sound.compiled (.inl edited.now.symm)
      (sound.consistent fun c hc => ?_)
    -- A cell that was queued meanwhile is not settled, and so was none that is told about.
    rcases edited.cell x hx with same | ⟨c', hc', -, queued, -⟩
    · rw [← edited.registry]
      exact stable c (same.trans hc)
    · rw [hc] at hc'
      cases hc'
      rw [← edited.registry]
      have stable := stable _ queued
      exact stable
  traced := (edited.undisturbed sound.compiled hx).traced sound.traced

/-- An edited cell is not settled, and nothing is claimed of its value. -/
theorem Edited.sound_self (edited : Edited id w w') (compiled : w'.CompiledAt id) :
    w'.Sound id := by
  refine sound_of_unsettled compiled ?_
  rintro ⟨c, hc, settled⟩
  rw [(edited.own c hc).1] at settled
  exact CellState.not_settled_dirty settled

/-- What is no cell is sound. -/
theorem sound_of_none (h : w.cell? x = none) : w.Sound x := by
  have absent : ∀ c, w.cell? x ≠ some c := by
    intro c hc
    rw [h] at hc
    cases hc
  exact sound_of_unsettled (fun c hc => absurd hc (absent c)) fun ⟨c, hc, _⟩ => absent c hc

theorem compiledAt_writeCell (wired : w.Wired) (id : CellId) (raw : String) :
    (w.writeCell id raw).CompiledAt id := by
  intro c hc
  have edited := edited_writeCell wired id raw
  rw [(cell?_writeCell_self wired id raw).1] at hc
  cases hc
  rw [compile_congr edited.settings edited.registry edited.sheets]

/-! ## Coherence -/

/-- Every cell is settled or waits. -/
def Waits (w : Workbook) : Prop := ∀ x c, w.cell? x = some c → c.state.Settled ∨ w.Queued c x

/-- What is known of a workbook between operations, up to some cells. -/
structure CoherentBut (stale : List CellId) (w : Workbook) : Prop where
  wired : w.Wired
  waits : w.Waits
  sound : ∀ x, x ∉ stale → w.Sound x

/-- What is known of a workbook between operations. -/
def Coherent (w : Workbook) : Prop := CoherentBut [] w

theorem Edited.waits (edited : Edited id w w') (waits : w.Waits) : w'.Waits := by
  intro x c hc
  by_cases hx : x = id
  · subst hx
    exact .inr (edited.own c hc)
  · rcases edited.cell x hx with same | ⟨c', -, -, queued, pending⟩
    · rcases waits x c (same ▸ hc) with settled | ⟨dirty, pending⟩
      · exact .inl settled
      · exact .inr ⟨dirty, edited.pending x pending⟩
    · rw [hc] at queued
      cases queued
      exact .inr ⟨rfl, pending⟩

theorem coherent_create (settings : Settings) (now : Moment) (seed : Nat) (engine : Regex.Engine) :
    Coherent (create settings now seed engine) where
  wired := wired_create settings now seed engine
  waits x c hc := by
    rw [cell?_create] at hc
    cases hc
  sound x _ := sound_of_none (cell?_create settings now seed engine x)

/-- Writing a cell again takes it off the list of those that may be unsound. -/
theorem CoherentBut.writeCell (h : CoherentBut stale w) (id : CellId) (raw : String) :
    CoherentBut (stale.erase id) (w.writeCell id raw) := by
  have edited := edited_writeCell h.wired id raw
  refine ⟨edited.wired, edited.waits h.waits, fun x hx => ?_⟩
  by_cases hid : x = id
  · subst hid
    exact edited.sound_self (compiledAt_writeCell h.wired x raw)
  · exact edited.sound (h.sound x fun mem => hx ((List.mem_erase_of_ne hid).2 mem)) hid

theorem Coherent.writeCell (h : w.Coherent) (id : CellId) (raw : String) :
    (w.writeCell id raw).Coherent :=
  CoherentBut.writeCell h id raw

theorem Coherent.clearCell (h : w.Coherent) (id : CellId) : (w.clearCell id).Coherent := by
  rcases edited_clearCell h.wired id with same | edited
  · rw [same]
    exact h
  · refine ⟨edited.wired, edited.waits h.waits, fun x _ => ?_⟩
    by_cases hid : x = id
    · subst hid
      exact sound_of_none (cell?_clearCell_self h.wired x)
    · exact edited.sound (h.sound x (by simp)) hid

/-! ## New sheets and functions -/

theorem mem_formulasWhere {p : Expr → Bool} :
    x ∈ w.formulasWhere p ↔ ∃ c e, w.cell? x = some c ∧ c.compiled.content = .formula e ∧
    p e = true := by
  unfold formulasWhere
  rw [List.mem_filterMap]
  constructor
  · rintro ⟨⟨id, slot⟩, mem, h⟩
    dsimp only at h
    split at h
    next raw e precedents volatile value state =>
      split at h
      next hp =>
        cases h
        exact ⟨_, e, live_mem_toList.1 mem, rfl, hp⟩
      next => cases h
    next => cases h
  · rintro ⟨⟨raw, ⟨content, precedents, volatile⟩, value, state⟩, e, hc, rfl, hp⟩
    refine ⟨(x, .live ⟨raw, ⟨.formula e, precedents, volatile⟩, value, state⟩), ?_, ?_⟩
    · exact live_mem_toList.2 hc
    · simp [hp]

/-- If no formula is found to be without a property, all formulas have it. -/
theorem of_formulasWhere_eq_nil {p : Expr → Bool} (none : w.formulasWhere (fun e => !p e) = [])
    (hc : w.cell? x = some c) (he : c.compiled.content = .formula e) : p e = true := by
  by_contra hp
  have listed : x ∈ w.formulasWhere fun e => !p e :=
    mem_formulasWhere.2 ⟨c, e, hc, he, by rw [Bool.not_eq_true', Bool.eq_false_iff]; exact hp⟩
  rw [none] at listed
  cases listed

/-- What holds of formulas that make do with some functions holds of all formulas if none calls
others. -/
theorem eachFormula_of_callsOnly {names : List String} {P : Registry → Expr → Prop}
    (none : w.formulasWhere (fun e => !e.callsOnly names) = [])
    (of : ∀ e, e.callsOnly names = true → P w.registry e) :
    w.EachFormula P :=
  fun _ _ e hc he => of e (of_formulasWhere_eq_nil none hc he)

/-- Recompiling cells one after the other, those that may be unsound among them, ends with every
cell sound. -/
theorem CoherentBut.recompile (ids : List CellId) {w : Workbook} (h : CoherentBut ids w) :
    (ids.foldl recompile w).Coherent := by
  induction ids generalizing w with
  | nil => exact h
  | cons id ids ih =>
    refine ih ?_
    unfold Workbook.recompile
    cases hc : w.cell? id with
    | some c =>
      have written := h.writeCell id c.raw
      rwa [List.erase_cons_head] at written
    | none =>
      refine ⟨h.wired, h.waits, fun x hx => ?_⟩
      by_cases hid : x = id
      · subst hid
        exact sound_of_none hc
      · exact h.sound x (by simp [hid, hx])

/-- A new sheet or function leaves the cells sound whose formulas it means nothing to. -/
theorem CoherentBut.of_alike (h : w.Coherent) (slots : w'.slots = w.slots)
    (dependents : w'.dependents = w.dependents) (pending : w'.pending = w.pending)
    (now : w'.now = w.now)
      (alike : ∀ x c e, x ∉ stale → w.cell? x = some c → c.compiled.content = .formula e →
      LooksAlike w w' x.sheet e ∧ w'.callsVolatile e = w.callsVolatile e) :
      CoherentBut stale w' := by
  have cell := cell?_of_slots slots
  -- The records are the same; it is formulas that could see something else in them.
  refine ⟨h.wired.of_records slots dependents, fun x c hc => ?_, fun x hx => ?_⟩
  · unfold Queued
    rw [pending]
    rw [cell] at hc
    exact h.waits x c hc
  · have sound : w.Sound x := h.sound x (by simp)
    have undisturbed : Undisturbed w w' x := by
      constructor
      · intro c hc _
        rw [← cell, hc]
      · intro _ d _
        exact .inl (settledValue_congr (cell d).symm)
      · intro _ c e hc he
        exact (alike x c e hx hc he).1
    constructor
    · intro c hc
      rw [cell] at hc
      have compiled := sound.compiled c hc
      rw [compile_of_alike fun e he => alike x c e hx hc (compiled ▸ he)]
      exact compiled
    · intro stable
      refine undisturbed.consistent sound.compiled (.inl now.symm) (sound.consistent fun c hc => ?_)
      have stable := stable c (by rw [cell, hc])
      cases he : c.compiled.content with
      | formula e =>
        rw [he] at stable
        exact (alike x c e hx hc he).1.stable stable
      | _ => trivial
    · exact undisturbed.traced sound.traced

/-- Formulas that do not name a new sheet look up the sheets they name as before. -/
theorem sheetOf?_of_added {name : String} {sheet : Nat} {r : Reference}
    (sheets : w'.sheets = w.sheets ++ [name])
    (unnamed : r.sheet.any (Text.sameName · name) = false) :
    w'.sheetOf? sheet r.sheet = w.sheetOf? sheet r.sheet := by
  cases hr : r.sheet with
  | none => rfl
  | some n =>
    rw [hr] at unnamed
    have other : Text.sameName name n = false := by
      rw [← unnamed]
      exact Bool.beq_comm
    show w'.sheetNamed? n = w.sheetNamed? n
    unfold sheetNamed?
    rw [sheets, List.findIdx?_append]
    simp [other]

/-- A new sheet is put in last, and then the formulas that name it are compiled again. -/
theorem addSheet_cases {name : String} {sheet : Nat}
    (added : w.addSheet name order = .ok (sheet, w')) :
    w' = w ∨ ∃ name a, a = { w with sheets := w.sheets ++ [name] } ∧
      w' = a.recompileWhere order (namesSheet name) := by
  unfold addSheet at added
  dsimp only at added
  split at added
  next => cases added
  next =>
    split at added
    next =>
      cases added
      exact .inl rfl
    next =>
      cases added
      exact .inr ⟨_, _, rfl, rfl⟩

theorem mem_arrange {p : Expr → Bool} :
    x ∈ order.arrange w (w.formulasWhere p) ↔
      ∃ c e, w.cell? x = some c ∧ c.compiled.content = .formula e ∧ p e = true :=
  (order.perm w _).mem_iff.trans mem_formulasWhere

theorem coherent_addSheet (h : w.Coherent) {name : String} {sheet : Nat}
    (added : w.addSheet name order = .ok (sheet, w')) : w'.Coherent := by
  rcases addSheet_cases added with rfl | ⟨name, a, rfl, rfl⟩
  · exact h
  · refine CoherentBut.recompile _ (CoherentBut.of_alike h rfl rfl rfl rfl fun x c e hx hc he => ?_)
    have unnamed : namesSheet name e = false := by
      rw [← Bool.not_eq_true]
      intro named
      exact hx (mem_arrange.2 ⟨c, e, hc, he, named⟩)
    refine ⟨⟨rfl, fun r hr => sheetOf?_of_added rfl ?_, fun _ _ _ => rfl, fun _ _ => rfl⟩, rfl⟩
    unfold namesSheet at unnamed
    rw [← Bool.not_eq_true, List.any_eq_true] at unnamed
    rw [← Bool.not_eq_true]
    exact fun named => unnamed ⟨r, Expr.mem_firstOfEach.2 hr, named⟩

theorem coherent_addFunction (h : w.Coherent) (f : Function) (order : Enumeration) :
    (w.addFunction f order).Coherent := by
  refine CoherentBut.recompile _ (CoherentBut.of_alike h rfl rfl rfl rfl fun x c e hx hc he => ?_)
  have uncalled : ∀ name ∈ e.calledFunctions, name ≠ f.name := by
    rintro name called rfl
    exact hx (mem_arrange.2 ⟨c, e, hc, he, List.contains_iff_mem.2 called⟩)
  refine ⟨⟨rfl, fun _ _ => rfl, fun name args call => ?_, fun _ _ => rfl⟩, ?_⟩
  · exact Registry.find?_insert_of_ne w.registry f
      (uncalled _ (Expr.mem_firstOfEach.2 (Expr.call_mem_calls call)))
  · have volatile : ∀ name ∈ e.calledFunctions,
      (w.registry.insert f).isVolatile name = w.registry.isVolatile name := by
      intro name called
      unfold Registry.isVolatile
      rw [Registry.find?_insert_of_ne w.registry f]
      rw [Expr.latinUpper_of_mem_calls (Expr.mem_firstOfEach.1 called)]
      exact uncalled name called
    unfold callsVolatile
    rw [Bool.eq_iff_iff, List.any_eq_true, List.any_eq_true]
    exact exists_congr fun name => and_congr_right fun called => by rw [volatile name called]

end Spreadsheet.Workbook
