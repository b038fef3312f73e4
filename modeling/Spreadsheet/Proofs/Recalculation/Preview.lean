import Spreadsheet.Proofs.Formula.Scanning
import Spreadsheet.Proofs.Text.Input
import Spreadsheet.Proofs.Workbook.Footprint
import Spreadsheet.Proofs.Workbook.Loop

/-!
# `Proofs/Recalculation/Preview.lean` — a preview shows what a cell would

A preview evaluates a formula without writing it anywhere. When the formula is then typed into a
cell of its own, one that nothing reads and that it does not read, the cell settles on the value
that was shown, on sheets with loops as on others (`preview_agrees_with_commit`).

The two get the formula on different ways: what is typed is trimmed, and loses its equals sign
when it is classified. Both ways then lead through the reader of formulas, which drops an equals
sign too. So a text with two of them is a formula when it is typed, but none when it is previewed
(`preview_can_disagree`).

The cell typed into is followed through the whole of the pass, which is four steps long, as
nothing is out of date but this one cell: it is fetched, expanded, evaluated, and then nothing is
left to do. That is why the result says how many steps are enough.
-/

set_option autoImplicit false

namespace Spreadsheet

/-! ## Formulas with equals signs -/

namespace Formula

/-- Only one equals sign in front is dropped. -/
theorem body_equals (s : String) : body ("=" ++ s) = s := by
  unfold body
  simp

/-- A formula is read with or without an equals sign in front. -/
theorem parse_equals_body (s : String) : parse ("=" ++ body s) = parse s := by
  unfold parse
  rw [body_equals]

/-- Two equals signs in front are one too many. -/
theorem parse_equals_ne_ok {s : String} (equals : s.toList.head? = some '=') (e : Expr) :
    parse ("=" ++ s) ≠ .ok e := by
  intro parsed
  obtain ⟨ws, scans, spells⟩ := parse_eq_ok_iff.1 parsed
  obtain ⟨rest, start⟩ := List.head?_eq_some_iff.1 equals
  rw [body_equals, start] at scans
  exact not_spells_equals scans spells

end Formula

/-! ## Functions of their arguments -/

/-- A function of its arguments alone. -/
def Function.Pure (f : Function) : Prop :=
  ∀ (c c' : Circumstances) (args : List Value), f.compute c args = f.compute c' args

/-- A formula that calls functions of their arguments alone. -/
def Expr.CallsPure (registry : Registry) (e : Expr) : Prop :=
  ∀ name args, .call name args ∈ e.parts → ∀ f, registry.find? name = some f → f.Pure

theorem Expr.callsPure_of_callsOnly {registry : Registry} {names : List String} {e : Expr}
    (h : e.callsOnly names = true) (functions : ∀ name ∈ names, ∀ f, registry.find? name = some f →
      f.Pure) : e.CallsPure registry :=
  fun name _ called => functions name (mem_of_callsOnly h called)

namespace Workbook

variable {w w' : Workbook} {id x d : CellId} {c : Cell} {sheet : Nat} {e : Expr} {raw : String}

/-! ## One waiting cell -/

theorem markDependentsDirty_of_unread (unread : ∀ x, x ∉ w.dependentsOf id) :
    w.markDependentsDirty id = w := by
  have none : (w.dependentsOf id).toList = [] := by
    rw [List.eq_nil_iff_forall_not_mem]
    exact fun x hx => unread x (Std.ExtTreeSet.mem_toList.1 hx)
  unfold markDependentsDirty
  rw [none]
  rfl

/-- Evaluating a cell that nothing reads settles it, and that is all. -/
theorem evaluateCell_of_unread (hc : w.cell? id = some c) (unread : ∀ x, x ∉ w.dependentsOf id) :
    (w.evaluateCell id).pending = w.pending ∧
      ∀ x, (w.evaluateCell id).cell? x = if x = id then some (w.evaluatedCell id c)
      else w.cell? x := by
  obtain ⟨text, pending, cell⟩ := evaluateContent_snd w id.sheet c.compiled.content
  let s := (w.evaluateContent id.sheet c.compiled.content).2.settle id
    (w.evaluated id.sheet c.compiled.content)
    (stateOf (w.evaluated id.sheet c.compiled.content))
  have same : w.evaluateCell id = s := by
    have unread : ∀ x, x ∉ s.dependentsOf id := by
      intro x
      rw [(text.trans (sameText_settle _ _ _ _)).dependentsOf]
      exact unread x
    have eq : w.evaluateCell id =
        if (w.evaluateContent id.sheet c.compiled.content).2.changes id
        (w.evaluated id.sheet c.compiled.content)
        then s.markDependentsDirty id else s := by
      unfold evaluateCell
      rw [hc]
      rfl
    -- Whether the value changes makes no difference, as there is nobody to be told.
    rw [eq, markDependentsDirty_of_unread unread, ite_self]
  rw [same]
  refine ⟨(pending_settle _ _ _ _).trans pending, fun x => ?_⟩
  rw [cell?_settle, cell, cell, hc]
  rfl

/-- Where every cell that is read is settled, and no loop is there to be found, nothing is
stacked. -/
theorem request_of_settled {p : Pass} {reads : List CellId}
    (settled : ∀ d ∈ reads, ∀ c, p.book.cell? d = some c → c.state.Settled)
    (off : p.book.loop? id = none) : Pass.request id p reads = p := by
  have state : ∀ d ∈ reads, ∀ s, ¬ s.Settled → p.book.state? d ≠ some s := by
    intro d hd s unsettled hs
    obtain ⟨c, hc, rfl⟩ := state?_eq_some.1 hs
    exact unsettled (settled d hd c hc)
  induction reads with
  | nil => rfl
  | cons d reads ih =>
    rcases Pass.request_cons id p d reads with ⟨dirty, -⟩ | ⟨members, loop, -⟩ | ⟨-, -, eq⟩
    · exact absurd dirty (state d (by simp) _ CellState.not_settled_dirty)
    · rcases loop with ⟨d', hd', evaluating, -⟩ | ⟨-, loop⟩
      · cases List.mem_singleton.1 hd'
        exact absurd evaluating (state d (by simp) _ CellState.not_settled_evaluating)
      · rw [off] at loop
        cases loop
    · rw [eq]
      exact ih (fun d hd => settled d (by simp [hd])) fun d hd => state d (by simp [hd])

/-- Formulas see nothing of a workbook but what follows. -/
theorem environment_congr (settings : w'.settings = w.settings)
    (registry : w'.registry = w.registry) (sheets : w'.sheets = w.sheets) (now : w'.now = w.now)
    (seed : w'.seed = w.seed) (values : ∀ x, w'.settledValue x = w.settledValue x)
    (tombstones : ∀ x, w'.isTombstone x = w.isTombstone x) :
    w'.environment sheet = w.environment sheet := by
  have resolve : ∀ a, w'.resolve? sheet a = w.resolve? sheet a := by
    intro a
    unfold resolve? sheetOf? sheetNamed?
    rw [sheets]
  have values : w'.settledValue = w.settledValue := funext values
  have tombstones : w'.isTombstone = w.isTombstone := funext tombstones
  unfold environment reader sheetOf? sheetNamed?
  simp only [settings, registry, sheets, now, seed, resolve, values, tombstones]

/-- Whether a cell is being evaluated makes no difference to what it comes to. -/
theorem evaluated_beginEvaluation (hc : w.cell? id = some c) (sheet : Nat) (content : Content) :
    (w.beginEvaluation id).evaluated sheet content = w.evaluated sheet content := by
  have eq := beginEvaluation_of_cell? hc
  have environment : (w.beginEvaluation id).environment sheet = w.environment sheet :=
    environment_congr (by rw [eq]) (by rw [eq]) (by rw [eq]) (by rw [eq]) (by rw [eq])
      (settledValue_beginEvaluation hc)
      (sameText_beginEvaluation hc).tombstone
  have calls : (w.beginEvaluation id).calls = w.calls := by rw [eq]
  cases content with
  | formula e =>
    show (e.evaluate ((w.beginEvaluation id).environment sheet) (w.beginEvaluation id).calls).1 = _
    rw [environment, calls]
    rfl
  | _ => rfl

/-- A pass over one waiting cell that reads settled cells and that nothing reads evaluates it, and
is over. -/
theorem drain_of_alone (pending : w.pending = [id]) (hc : w.cell? id = some c)
    (dirty : c.state = .dirty) (settled : ∀ d, w.Reads id d → ∀ c, w.cell? d = some c →
      c.state.Settled) (unread : ∀ x, x ∉ w.dependentsOf id)
    (off : ¬ w.OnLoop id) :
    ∃ w', (∀ steps, w.drain (steps + 4) = some w') ∧
    w'.settledValue id = w.evaluated id.sheet c.compiled.content := by
  let fetched : Workbook := { w with pending := [] }
  let begun := fetched.beginEvaluation id
  have hfetched : fetched.cell? id = some c := hc
  have hbegun : begun.cell? id = some { c with state := .evaluating } := by
    rw [cell?_beginEvaluation hfetched, if_pos rfl]
  have text : SameText fetched begun := sameText_beginEvaluation hfetched
  obtain ⟨queue, cell⟩ := evaluateCell_of_unread hbegun fun x => by
    rw [text.dependentsOf]
    exact unread x
  -- The four steps of the pass: the cell is fetched, expanded, evaluated, and nothing is left.
  have first : Pass.step ⟨w, []⟩ = some ⟨fetched, [⟨id, false⟩]⟩ := by
    simp only [Pass.step, pending]
    rfl
  have second : Pass.step ⟨fetched, [⟨id, false⟩]⟩ = some ⟨begun, [⟨id, true⟩]⟩ := by
    have state : fetched.state? id = some .dirty := state?_eq_some.2 ⟨c, hfetched, dirty⟩
    simp only [Pass.step, state, if_true, Option.some.injEq]
    refine request_of_settled (fun d hd c' hc' => ?_) ?_
    · have reads : w.Reads id d := Std.ExtTreeSet.mem_toList.1 hd
      have other : d ≠ id := by
        rintro rfl
        exact off (.single reads)
      have hc' : begun.cell? d = some c' := hc'
      rw [cell?_beginEvaluation hfetched, if_neg other] at hc'
      exact settled d reads c' hc'
    · show begun.loop? id = none
      rw [← Option.not_isSome_iff_eq_none, loop?_isSome_iff]
      unfold OnLoop
      rw [text.reads]
      exact off
  have third : Pass.step ⟨begun, [⟨id, true⟩]⟩ = some ⟨begun.evaluateCell id, []⟩ := by
    have state : begun.state? id = some .evaluating := state?_eq_some.2 ⟨_, hbegun, rfl⟩
    simp only [Pass.step, state, if_true]
  have fourth : Pass.step ⟨begun.evaluateCell id, []⟩ = none := by
    have pending : (begun.evaluateCell id).pending = [] :=
      queue.trans (pending_beginEvaluation hfetched)
    simp only [Pass.step, pending]
  refine ⟨begun.evaluateCell id, fun steps => ?_, ?_⟩
  · unfold drain
    simp only [Pass.run, first, second, third, fourth]
  · rw [settledValue_of_cell? ((cell id).trans (if_pos rfl))]
    have fetching : fetched.evaluated id.sheet c.compiled.content =
      w.evaluated id.sheet c.compiled.content := by
      cases c.compiled.content <;> rfl
    exact (evaluated_beginEvaluation hfetched id.sheet c.compiled.content).trans fetching

/-! ## A cell of its own -/

theorem cell?_of_fresh (fresh : w.slots[id]? = none) : w.cell? id = none := by
  unfold Workbook.cell?
  rw [fresh]

theorem isTombstone_of_fresh (fresh : w.slots[id]? = none) : w.isTombstone id = false := by
  unfold isTombstone
  rw [fresh]

/-- Nothing has to be taken out for a cell that there was not. -/
theorem unlink_of_fresh (fresh : w.slots[id]? = none) : w.unlink id = w := by
  unfold unlink precedentsOf
  rw [cell?_of_fresh fresh]
  rfl

/-- Writing an input to a cell of its own queues that cell, and that is all. -/
theorem writeCell_of_apart (wired : w.Wired) (fresh : w.slots[id]? = none)
    (unread : ∀ x, ¬ w.Reads x id) (apart : id ∉ (w.compile id.sheet raw).precedents) :
    (w.writeCell id raw).pending = id :: w.pending ∧
      (∀ x, x ≠ id → (w.writeCell id raw).cell? x = w.cell? x) ∧
      (∀ x, (w.writeCell id raw).isTombstone x = w.isTombstone x) ∧ ∀ x,
      ¬ (w.writeCell id raw).Reads x id := by
  have own : (w.placed id raw).cell? id =
      some ⟨raw, w.compile id.sheet raw, w.settledValue id, .clean⟩ := by
    rw [cell?_placed, if_pos rfl]
  have unread : ∀ x, ¬ (w.placed id raw).Reads x id := by
    intro x
    by_cases hx : x = id
    · subst hx
      rwa [reads_of_cell? own]
    · rw [reads_placed hx]
      exact unread x
  have wired' : (w.placed id raw).Wired := wired_placed wired
  have marked := marked_markDirty (w.placed id raw) id
  have queued : w.queued id raw = (w.placed id raw).markDirty id := by
    refine markDependentsDirty_of_unread fun x => ?_
    rw [marked.text.dependentsOf, wired'.mem_dependentsOf]
    exact unread x
  -- A write looks for a loop only through readers of the cell, and there are none.
  have closes : ((w.placed id raw).markDirty id).closedLoop? id = none := by
    have none : ((w.placed id raw).markDirty id).dependents.contains id = false := by
      rw [marked.text.dependents, ← Bool.not_eq_true, wired'.contains_iff]
      exact fun ⟨x, reads⟩ => unread x reads
    unfold closedLoop?
    simp [none]
  rw [writeCell_eq, queued, closes]
  show ((w.placed id raw).markDirty id).pending = _ ∧
    (∀ x, x ≠ id → ((w.placed id raw).markDirty id).cell? x = _) ∧
    (∀ x, ((w.placed id raw).markDirty id).isTombstone x = _) ∧ ∀ x,
    ¬ ((w.placed id raw).markDirty id).Reads x id
  refine ⟨?_, fun x hx => ?_, fun x => ?_, fun x => ?_⟩
  · rcases markDirty_cases (w.placed id raw) id with ⟨-, unsettled⟩ | ⟨c, -, -, eq⟩
    · exact absurd ⟨_, own, CellState.settled_clean⟩ unsettled
    · rw [eq]
      show id :: (w.unlink id).pending = id :: w.pending
      rw [unlink_of_fresh fresh]
  · have kept : ([id].foldl markDirty (w.placed id raw)).cell? x = (w.placed id raw).cell? x :=
      cell?_foldl_markDirty (by simpa using hx)
    refine kept.trans ?_
    rw [cell?_placed, if_neg hx]
  · rw [marked.text.tombstone, isTombstone_of_insert_live (slots_placed w id raw),
      unlink_of_fresh fresh]
    split
    next h => rw [h, isTombstone_of_fresh fresh]
    next => rfl
  · rw [marked.text.reads]
    exact unread x

/-! ## Previews -/

/-- What a preview that is answered goes through. -/
theorem preview_eq_ok {steps : Nat} {source : String} {S : Option String} {v : Value}
    (previewed : w.preview steps source S = .ok (v, w')) :
    ∃ sheet e w₁, w.sheetFor S = .ok sheet ∧ Formula.parse source = .ok e ∧
      w.drain steps = some w₁ ∧
      v = (e.evaluate (w₁.environment sheet) w₁.calls).1 ∧
      w' = { w₁ with calls := (e.evaluate (w₁.environment sheet) w₁.calls).2 } := by
  obtain ⟨sheet, found, rest⟩ := exists_of_bind_eq_ok previewed
  split at rest
  next => cases rest
  next e parsed =>
    obtain ⟨w₁, settled, answer⟩ := exists_of_bind_eq_ok rest
    cases answer
    exact ⟨sheet, e, w₁, found, parsed, drain_of_settled settled, rfl, rfl⟩

/-- A preview of what is no formula tells what is wrong with it. -/
theorem preview_of_fault {steps : Nat} {source : String} {S : Option String} {fault : SyntaxError}
    (on : w.sheetFor S = .ok sheet) (parsed : Formula.parse source = .error fault) :
    w.preview steps source S = .error (.formula fault) := by
  unfold preview
  rw [on, parsed]
  rfl

theorem parse_of_preview_error {steps : Nat} {source : String} {S : Option String}
    {fault : SyntaxError} (on : w.sheetFor S = .ok sheet)
    (previewed : w.preview steps source S = .error (.formula fault)) :
    Formula.parse source = .error fault := by
  unfold preview settled at previewed
  rw [on] at previewed
  cases parsed : Formula.parse source with
  | error fault' =>
    simp only [parsed] at previewed
    cases previewed
    rfl
  | ok e =>
    simp only [parsed] at previewed
    cases drained : w.drain steps with
    | none =>
      rw [drained] at previewed
      cases previewed
    | some w' =>
      rw [drained] at previewed
      cases previewed

/-- Formulas of pure functions come to one and the same value where the cells they read hold the
same. -/
theorem evaluate_eq_of_pure (pure : e.CallsPure w.registry) (settings : w'.settings = w.settings)
    (registry : w'.registry = w.registry) (sheets : w'.sheets = w.sheets)
    (values : ∀ d ∈ w.precedentsOn sheet e, w'.settledValue d = w.settledValue d)
    (tombstones : ∀ d, w'.isTombstone d = w.isTombstone d) (calls calls' : CallCounts) :
    (e.evaluate (w'.environment sheet) calls').1 = (e.evaluate (w.environment sheet) calls).1 := by
  have alike : SeesAlike w w' sheet e :=
    seesAlike_of_eq settings registry sheets fun _ d _ _ => tombstones d
  exact (alike.evaluate_eq (Q := fun _ _ => True) values (fun _ _ => trivial)
    (fun name args called f found values _ _ _ => pure name args called f found _ _ values)
    trivial).1.symm

/-- Texts name the same cells where the sheets are the same. -/
theorem cellId_congr (sheets : w'.sheets = w.sheets) (text : String) :
    w'.cellId text = w.cellId text := by
  unfold cellId resolve? sheetOf? sheetNamed?
  rw [sheets]

theorem SameText.fresh (text : SameText w w') (fresh : w.slots[id]? = none) :
    w'.slots[id]? = none := by
  cases h : w'.slots[id]? with
  | none => rfl
  | some slot =>
    cases slot with
    | live c =>
      obtain ⟨c', hc', -⟩ := text.symm.cell? (cell?_eq_some.2 h)
      rw [cell?_of_fresh fresh] at hc'
      cases hc'
    | tombstone =>
      have tombstone := isTombstone_iff.2 h
      rw [text.tombstone, isTombstone_of_fresh fresh] at tombstone
      cases tombstone

theorem not_onLoop_of_unread (unread : ∀ x, ¬ w.Reads x id) : ¬ w.OnLoop id := by
  intro loop
  obtain ⟨x, -, reads⟩ := Relation.TransGen.tail'_iff.1 loop
  exact unread x reads

/-- What is asked for is found by a pass. -/
theorem value_eq_ok {steps : Nat} {text : String} (named : w.cellId text = .ok id)
    {answer : Value × Workbook} :
    w.value steps text = .ok answer ↔
    ∃ w', w.drain steps = some w' ∧ answer = (w'.settledValue id, w') := by
  unfold value settled
  rw [named]
  cases w.drain steps with
  | none => exact iff_of_false nofun nofun
  | some w' =>
    show Except.ok (w'.settledValue id, w') = .ok answer ↔ _
    simp [eq_comm]

theorem write_eq_ok {text : String} (named : w.cellId text = .ok id) (raw : String) :
    w.write text raw = .ok (w.writeCell id raw) := by
  unfold write
  rw [named]
  rfl

/-- What is typed with an equals sign in front is compiled to the formula that is previewed. -/
theorem compile_equals_of_ok {s : String} (parsed : Formula.parse s = .ok e) (sheet : Nat) :
    w.compile sheet ("=" ++ s) = ⟨.formula e, w.precedentsOn sheet e, w.callsVolatile e⟩ := by
  have trimmed : Formula.parse (String.ofList (Text.trimEnd s.toList)) = .ok e := by
    rw [Formula.parse_trimEnd, String.ofList_toList]
    exact parsed
  unfold compile
  rw [Input.classify_equals]
  simp only [trimmed]

theorem compile_equals_of_error {s : String} {fault : SyntaxError}
    (parsed : Formula.parse s = .error fault) (sheet : Nat) :
    ∃ fault', w.compile sheet ("=" ++ s) = ⟨.invalid fault', ∅, false⟩ := by
  unfold compile
  rw [Input.classify_equals]
  cases trimmed : Formula.parse (String.ofList (Text.trimEnd s.toList)) with
  | ok e =>
    rw [Formula.parse_trimEnd, String.ofList_toList, parsed] at trimmed
    cases trimmed
  | error fault' => exact ⟨fault', by simp only [trimmed]⟩

theorem formulaError?_of_cell? {text : String} (named : w.cellId text = .ok id)
    (hc : w.cell? id = some c) :
    w.formulaError? text =
    .ok (match c.compiled.content with | .invalid fault => some fault | _ => none) := by
  unfold formulaError?
  rw [named]
  simp only [Except.map, hc]
  obtain ⟨raw, ⟨content, precedents, volatile⟩, value, state⟩ := c
  cases content <;> rfl

/-- What is no formula comes to the error of an unknown name. -/
theorem Coherent.value_of_invalid (coherent : w.Coherent) {steps : Nat}
    (drained : w.drain steps = some w') (hc : w.cell? id = some c) {fault : SyntaxError}
    (compiled : c.compiled = ⟨.invalid fault, ∅, false⟩) :
    w'.settledValue id = .error .unknownName := by
  obtain ⟨coherent', settled, text⟩ := coherent.drain drained
  obtain ⟨c', hc', -, same⟩ := text.cell? hc
  have sound := coherent'.sound id (by simp)
  have invalid : c'.compiled = ⟨.invalid fault, ∅, false⟩ := same.trans compiled
  have reads : ∀ d, ¬ w'.Reads id d := by
    intro d
    rw [reads_of_cell? hc', invalid]
    exact Std.ExtTreeSet.not_mem_empty
  have stable : w'.StableAt id := by
    intro c'' hc''
    rw [hc'] at hc''
    cases hc''
    rw [invalid]
    trivial
  rw [settledValue_of_cell? hc']
  rcases sound.consistent stable c' hc' (settled id c' hc') (by rw [invalid]; trivial)
    (fun d hd => absurd hd (reads d)) with
    value | ⟨-, d, hd, -⟩
  · rw [invalid] at value
    exact Value.Close.eq_error (.inr value.symm) rfl
  · exact absurd hd (reads d)

/-- A formula that was typed into a cell of its own in a settled workbook. -/
theorem Coherent.value_of_apart (coherent : w.Coherent) (settled : w.AllSettled)
    (pending : w.pending = []) (fresh : w.slots[id]? = none) (unread : ∀ x, ¬ w.Reads x id)
    {s : String} (parsed : Formula.parse s = .ok e) (pure : e.CallsPure w.registry)
    (apart : id ∉ w.precedentsOn id.sheet e) (calls : CallCounts) :
    ∃ w', (∀ steps, (w.writeCell id ("=" ++ s)).drain (steps + 4) = some w') ∧
      w'.settledValue id = (e.evaluate (w.environment id.sheet) calls).1 := by
  have compiled := compile_equals_of_ok (w := w) parsed id.sheet
  obtain ⟨queue, cell, tombstone, unread'⟩ := writeCell_of_apart coherent.wired fresh unread
    (show id ∉ (w.compile id.sheet ("=" ++ s)).precedents by rwa [compiled])
  have edited := edited_writeCell coherent.wired id ("=" ++ s)
  have own := (cell?_writeCell_self coherent.wired id ("=" ++ s)).1
  have others : ∀ d, (w.writeCell id ("=" ++ s)).Reads id d → d ≠ id := by
    rintro d reads rfl
    exact unread' d reads
  obtain ⟨w', returns, value⟩ := drain_of_alone (queue.trans (by rw [pending])) own rfl
    (fun d reads c hc => settled d c (by rwa [← cell d (others d reads)]))
    (fun x mem => unread' x ((edited.wired.mem_dependentsOf x id).1 mem))
    (not_onLoop_of_unread unread')
  refine ⟨w', returns, value.trans ?_⟩
  rw [compiled]
  refine evaluate_eq_of_pure pure edited.settings edited.registry edited.sheets
    (fun d hd => ?_) tombstone _ _
  refine settledValue_congr (cell d ?_)
  rintro rfl
  exact apart hd

/-- Typing what was previewed into a cell of its own shows what the preview showed. -/
theorem Coherent.commit_of_preview (coherent : w.Coherent) {S : Option String} {text s : String}
    (on : w.sheetFor S = .ok id.sheet) (named : w.cellId text = .ok id)
    (fresh : w.slots[id]? = none) (unread : ∀ x, ¬ w.Reads x id)
    (pure : ∀ e, Formula.parse s = .ok e → e.CallsPure w.registry)
    (apart : ∀ e, Formula.parse s = .ok e → id ∉ w.precedentsOn id.sheet e) {steps : Nat}
    {v : Value} {w₁ : Workbook}
    (previewed : w.preview steps ("=" ++ Formula.body s) S = .ok (v, w₁)) :
    SameText w w₁ ∧ (∃ w₀ calls, w.drain steps = some w₀ ∧ w₁ = { w₀ with calls := calls }) ∧
      ∃ w₂ w₃, w₁.write text ("=" ++ s) = .ok w₂ ∧ w₂.formulaError? text = .ok none ∧
        (∀ steps, w₂.value (steps + 4) text = .ok (v, w₃)) ∧
        ∀ steps answer, w₂.value steps text = .ok answer → answer = (v, w₃) := by
  obtain ⟨sheet, e, w₀, found, parsed, drained, value, rfl⟩ := preview_eq_ok previewed
  rw [on] at found
  cases found
  rw [Formula.parse_equals_body] at parsed
  obtain ⟨coherent₀, settled₀, sameText⟩ := coherent.drain drained
  generalize (e.evaluate (w₀.environment id.sheet) w₀.calls).2 = calls
  let w₁ : Workbook := { w₀ with calls := calls }
  have text₁ : SameText w w₁ := sameText.trans ⟨rfl, rfl, rfl, rfl, rfl, fun _ => rfl, fun _ => rfl⟩
  have coherent₁ : w₁.Coherent := coherent₀.of_clock w₀.now calls
  have precedents : w₁.precedentsOn id.sheet e = w.precedentsOn id.sheet e := by
    have compiled := compile_congr text₁.settings text₁.registry text₁.sheets id.sheet ("=" ++ s)
    rw [compile_equals_of_ok parsed, compile_equals_of_ok parsed] at compiled
    exact congrArg Compiled.precedents compiled
  have pending : w₀.pending = [] := pending_of_drain drained
  obtain ⟨w₃, returns, same⟩ := coherent₁.value_of_apart settled₀ pending (text₁.fresh fresh)
    (by rw [text₁.reads]; exact unread) parsed (by rw [text₁.registry]; exact pure e parsed)
    (by rw [precedents]; exact apart e parsed) w₀.calls
  have same : w₃.settledValue id = v := same.trans value.symm
  have named₁ : w₁.cellId text = .ok id := (cellId_congr text₁.sheets text).trans named
  have edited := edited_writeCell coherent₁.wired id ("=" ++ s)
  have named₂ : (w₁.writeCell id ("=" ++ s)).cellId text = .ok id :=
    (cellId_congr edited.sheets text).trans named₁
  refine ⟨text₁, ⟨w₀, calls, drained, rfl⟩, w₁.writeCell id ("=" ++ s), w₃, write_eq_ok named₁ _,
    ?_, fun steps => ?_, fun steps answer asked => ?_⟩
  · rw [formulaError?_of_cell? named₂ (cell?_writeCell_self coherent₁.wired id ("=" ++ s)).1,
      compile_equals_of_ok parsed]
  · exact (value_eq_ok named₂).2 ⟨w₃, returns steps, by rw [same]⟩
  · obtain ⟨w', drained', rfl⟩ := (value_eq_ok named₂).1 asked
    rw [Pass.run_unique drained' (returns 0), same]

/-- Typing what has a fault shows the fault, and the error of an unknown name. -/
theorem Coherent.commit_of_fault (coherent : w.Coherent) {S : Option String} {text s : String}
    (on : w.sheetFor S = .ok id.sheet) (named : w.cellId text = .ok id) {steps : Nat}
    {fault : SyntaxError}
    (previewed : w.preview steps ("=" ++ Formula.body s) S = .error (.formula fault)) :
    ∃ w₂ fault', w.write text ("=" ++ s) = .ok w₂ ∧ w₂.formulaError? text = .ok (some fault') ∧
      ∀ steps answer, w₂.value steps text = .ok answer → answer.1 = .error .unknownName := by
  have parsed : Formula.parse s = .error fault := by
    rw [← Formula.parse_equals_body]
    exact parse_of_preview_error on previewed
  obtain ⟨fault', compiled⟩ := compile_equals_of_error (w := w) parsed id.sheet
  have edited := edited_writeCell coherent.wired id ("=" ++ s)
  have own := (cell?_writeCell_self coherent.wired id ("=" ++ s)).1
  rw [compiled] at own
  have named' : (w.writeCell id ("=" ++ s)).cellId text = .ok id :=
    (cellId_congr edited.sheets text).trans named
  refine ⟨w.writeCell id ("=" ++ s), fault', write_eq_ok named _,
    formulaError?_of_cell? named' own, ?_⟩
  intro steps answer asked
  obtain ⟨w', drained, rfl⟩ := (value_eq_ok named').1 asked
  exact (coherent.writeCell id ("=" ++ s)).value_of_invalid drained own rfl

/-- A preview of a text with two equals signs in front finds a fault. -/
theorem exists_fault_of_equals {S : Option String} {s : String} (on : w.sheetFor S = .ok sheet)
    (equals : s.toList.head? = some '=') (steps : Nat) :
    ∃ fault, w.preview steps ("=" ++ s) S = .error (.formula fault) := by
  cases parsed : Formula.parse ("=" ++ s) with
  | ok e => exact absurd parsed (Formula.parse_equals_ne_ok equals e)
  | error fault => exact ⟨fault, preview_of_fault on parsed⟩

/-- **Preview and commit agree.** What a preview shows of a formula is what a cell of its own
settles on when the formula is typed into it, by any pass, and four steps are enough for one. When
a preview finds a fault, typing finds one, and the cell settles on the error of an unknown name. A
preview changes nothing but the counts of calls, beyond what a pass would.

This is about formulas with one equals sign in front. Behind it, typing drops another one, and a
preview does not: with two of them every preview finds a fault. -/
theorem preview_agrees_with_commit (reachable : w.Reachable) {S : Option String} {text s : String}
    (on : w.sheetFor S = .ok id.sheet) (named : w.cellId text = .ok id)
    (fresh : w.slots[id]? = none) (unread : ∀ x, ¬ w.Reads x id)
    (pure : ∀ e, Formula.parse s = .ok e → e.CallsPure w.registry)
    (apart : ∀ e, Formula.parse s = .ok e → id ∉ w.precedentsOn id.sheet e) :
    (∀ steps v w₁, w.preview steps ("=" ++ Formula.body s) S = .ok (v, w₁) →
      SameText w w₁ ∧ (∃ w₀ calls, w.drain steps = some w₀ ∧ w₁ = { w₀ with calls := calls }) ∧
        ∃ w₂ w₃, w₁.write text ("=" ++ s) = .ok w₂ ∧ w₂.formulaError? text = .ok none ∧
          (∀ steps, w₂.value (steps + 4) text = .ok (v, w₃)) ∧
          ∀ steps answer, w₂.value steps text = .ok answer → answer = (v, w₃)) ∧
      (∀ steps fault, w.preview steps ("=" ++ Formula.body s) S = .error (.formula fault) →
        ∃ w₂ fault', w.write text ("=" ++ s) = .ok w₂ ∧ w₂.formulaError? text = .ok (some fault') ∧
          ∀ steps answer, w₂.value steps text = .ok answer → answer.1 = .error .unknownName) ∧
      (s.toList.head? ≠ some '=' → Formula.body s = s) ∧
      (s.toList.head? = some '=' →
        ∀ steps, ∃ fault, w.preview steps ("=" ++ s) S = .error (.formula fault)) := by
  have coherent := reachable.coherent
  refine ⟨fun steps v w₁ previewed => ?_, fun steps fault previewed => ?_, Formula.body_eq_self,
    fun equals steps => ?_⟩
  · exact coherent.commit_of_preview on named fresh unread pure apart previewed
  · exact coherent.commit_of_fault on named previewed
  · exact exists_fault_of_equals on equals steps

/-- A formula with blanks behind it, next to a loop that still waits. -/
theorem preview_agrees_with_commit_of_loop :
    ∃ (w w₁ w₂ w₃ : Workbook) (v : Value), w.OnLoop ⟨0, ⟨0, 0⟩⟩ ∧
      w.preview 30 "=D1+1  " none = .ok (v, w₁) ∧
      v.error? = none ∧ w₁.isCyclic ⟨0, ⟨0, 0⟩⟩ = true ∧ w₁.write "C1" "=D1+1  " = .ok w₂ ∧
      w₂.formulaError? "C1" = .ok none ∧ ∀ steps, w₂.value (steps + 4) "C1" = .ok (v, w₃) := by
  let w :=
    (((create Settings.default ⟨⟨2000, 1, 1⟩, 0⟩ 0).writeCell ⟨0, ⟨0, 3⟩⟩ "4").writeCell ⟨0, ⟨0, 0⟩⟩
    "=B1").writeCell ⟨0, ⟨0, 1⟩⟩ "=A1"
  have reachable : w.Reachable := (((reachable_create _ _ _ _).write _ _).write _ _).write _ _
  have unread : ∀ x, ¬ w.Reads x ⟨0, ⟨0, 2⟩⟩ := by
    have none : ∀ x ∈ w.readers.toList, ⟨0, ⟨0, 2⟩⟩ ∉ (w.precedentsOf x).toList := by decide +kernel
    intro x reads
    exact none x (Std.ExtTreeSet.mem_toList.2 (mem_readers.2 ⟨_, reads⟩))
      (Std.ExtTreeSet.mem_toList.2 reads)
  have allowed : ∀ e, Formula.parse "D1+1  " = .ok e →
      e.callsOnly [] = true ∧ ⟨0, ⟨0, 2⟩⟩ ∉ (w.precedentsOn 0 e).toList := by
    have all : ((Formula.parse "D1+1  ").toOption.all fun e =>
        e.callsOnly [] && decide (⟨0, ⟨0, 2⟩⟩ ∉ (w.precedentsOn 0 e).toList)) = true := by
          decide +kernel
    intro e parsed
    rw [parsed] at all
    simp only [Except.toOption, Option.all_some, Bool.and_eq_true, decide_eq_true_eq] at all
    exact all
  let answer := (w.preview 30 ("=" ++ Formula.body "D1+1  ") none).toOption.get (by decide +kernel)
  have previewed : w.preview 30 ("=" ++ Formula.body "D1+1  ") none = .ok answer := eq_ok_get _ _
  have plain : Formula.body "D1+1  " = "D1+1  " := Formula.body_eq_self (by decide +kernel)
  have on : w.sheetFor none = .ok 0 := rfl
  have named : w.cellId "C1" = .ok ⟨0, ⟨0, 2⟩⟩ := by decide +kernel
  obtain ⟨agree, -⟩ := preview_agrees_with_commit reachable on named (by decide +kernel) unread
    (fun e parsed => e.callsPure_of_callsOnly (allowed e parsed).1 nofun)
    (fun e parsed mem => (allowed e parsed).2 (Std.ExtTreeSet.mem_toList.2 mem))
  obtain ⟨-, -, w₂, w₃, written, sound, returns, -⟩ := agree 30 answer.1 answer.2 previewed
  rw [plain] at previewed
  exact ⟨w, answer.2, w₂, w₃, answer.1, by decide +kernel,
    previewed, by decide +kernel, by decide +kernel, written, sound, returns⟩

/-- With a second equals sign in front, a preview finds a fault in what is a formula when it is
typed. -/
theorem preview_can_disagree :
    ∃ (w w₂ : Workbook) (answer : Value × Workbook) (fault : SyntaxError),
      w.Reachable ∧ w.slots[(⟨0, ⟨0, 0⟩⟩ : CellId)]? = none ∧
      w.preview 20 "==1" none = .error (.formula fault) ∧ w.write "A1" "==1" = .ok w₂ ∧
      w₂.formulaError? "A1" = .ok none ∧ w₂.value 20 "A1" = .ok answer ∧
      answer.1.error? = none := by
  let w := create Settings.default ⟨⟨2000, 1, 1⟩, 0⟩ 0
  let w₂ := (w.write "A1" "==1").toOption.get (by decide +kernel)
  let answer := (w₂.value 20 "A1").toOption.get (by decide +kernel)
  have on : w.sheetFor none = .ok 0 := rfl
  obtain ⟨fault, previewed⟩ := exists_fault_of_equals (s := "=1") on rfl 20
  exact ⟨w, w₂, answer, fault, .create _ _ _ _, by decide +kernel, previewed,
    eq_ok_get _ _, by decide +kernel, eq_ok_get _ _, by decide +kernel⟩

end Workbook

end Spreadsheet
