import Spreadsheet.Proofs.Workbook.Reachable
import Spreadsheet.Workbook.Load

/-!
# `Proofs/Workbook/Session.lean` — what calls lead to

The calls that a workbook takes name cells and sheets by texts, can be refused, and some do much
at once: loading a file adds sheets, writes cells and recalculates. Each is a run of operations
(`Call.runs`), so whatever is proved of reachable workbooks holds in every session, and what is
said here of sessions is said in the words of those who make the calls.

The first such thing is that who reads whom is on record as the formulas have it, as they would be
compiled now (`readers_on_record`).

A call that is refused runs no operation, except that a load may have added sheets by then, and a
call that settles cells runs a pass last. Nothing more is said of calls here; what an operation
does is said elsewhere.
-/

set_option autoImplicit false

namespace Spreadsheet.Workbook

variable {w w' : Workbook} {order : Enumeration} {x : CellId} {steps : Nat}

/-! ## Calls -/

/-- Calls that settle every waiting cell before they answer. -/
inductive SettlingCall : Workbook → Workbook → Prop where
  | value {w w' : Workbook} {steps : Nat} {text : String} {value : Value}
      (asked : w.value steps text = .ok (value, w')) : SettlingCall w w'
  | recalculate {w w' : Workbook} {steps : Nat} (done : w.recalculate steps = some w') :
      SettlingCall w w'
  | preview {w w' : Workbook} {steps : Nat} {source : String} {sheet : Option String}
      {value : Value}
      (previewed : w.preview steps source sheet = .ok (value, w')) : SettlingCall w w'
  | listing {w w' : Workbook} {steps : Nat} {cells : List (CellId × Value)}
      (listed : w.listing steps = .ok (cells, w')) : SettlingCall w w'
  | load {w w' : Workbook} {steps : Nat} {content : String} {order : Enumeration} {count : Nat}
      (loaded : w.load steps content order = (.ok count, w')) : SettlingCall w w'

/-- Calls that can change a workbook. A call that is refused changes nothing, unless it is to load
a file. -/
inductive Call : Workbook → Workbook → Prop where
  | write {w w' : Workbook} {text input : String}
      (written : w.write text input = .ok w') : Call w w'
  | clear {w w' : Workbook} {text : String} (cleared : w.clear text = .ok w') : Call w w'
  | addSheet {w w' : Workbook} {name : String} {order : Enumeration} {sheet : Nat}
      (added : w.addSheet name order = .ok (sheet, w')) : Call w w'
  | addFunction {w : Workbook} (f : Function) (order : Enumeration) : Call w (w.addFunction f order)
  | settling {w w' : Workbook} (call : SettlingCall w w') : Call w w'
  | refusedLoad {w w' : Workbook} {steps : Nat} {content : String} {order : Enumeration}
      {fault : Failure} (refused : w.load steps content order = (.error fault, w')) : Call w w'
  | clock {w : Workbook} (now : Moment) : Call w { w with now := now }

/-- What some calls lead to from a new workbook. -/
inductive Session : Workbook → Prop where
  | create (settings : Settings) (now : Moment) (seed : Nat) (engine : Regex.Engine) :
      Session (create settings now seed engine)
  | call {w w' : Workbook} (session : Session w) (call : Call w w') : Session w'

theorem Session.addSheet (session : Session w) {name : String} {answer : Nat × Workbook}
    (added : w.addSheet name order = .ok answer) : Session answer.2 :=
  .call session (.addSheet added)

theorem SettlingCall.value_of_answer {text : String} {answer : Value × Workbook}
    (asked : w.value steps text = .ok answer) : SettlingCall w answer.2 := .value asked

/-! ## Calls as runs of operations -/

/-- Operations lead from one workbook to another. -/
def Runs : Workbook → Workbook → Prop := Relation.ReflTransGen Operation

theorem Operation.runs (operation : Operation w w') : Runs w w' := .single operation

theorem Reachable.of_runs (reachable : w.Reachable) (runs : Runs w w') : w'.Reachable := by
  induction runs with
  | refl => exact reachable
  | tail _ operation ih => exact .operation ih operation trivial

theorem Runs.coherent (runs : Runs w w') (coherent : w.Coherent) : w'.Coherent := by
  induction runs with
  | refl => exact coherent
  | tail _ operation ih => exact operation.coherent ih

theorem runs_addSheets (order : Enumeration) (entries : List SheetFile.Entry) (w : Workbook) :
    Runs w (w.addSheets order entries).2 := by
  induction entries generalizing w with
  | nil => exact .refl
  | cons entry entries ih =>
    unfold addSheets
    cases entry.sheet with
    | none => exact ih w
    | some name =>
      cases hadd : w.addSheet name order with
      | error fault =>
        simp only [hadd]
        exact .refl
      | ok added =>
        obtain ⟨sheet, w'⟩ := added
        simp only [hadd]
        exact .head (.addSheet hadd) (ih w')

theorem runs_writeEntry (entry : SheetFile.Entry) (w : Workbook) : Runs w (w.writeEntry entry) := by
  unfold writeEntry
  cases w.sheetOf? defaultSheet entry.sheet with
  | none => exact .refl
  | some sheet => exact (Operation.write _ _).runs

theorem runs_writeEntries (entries : List SheetFile.Entry) (w : Workbook) :
    Runs w (entries.foldl writeEntry w) :=
  List.foldlRecOn entries _ .refl fun v runs entry _ => runs.trans (runs_writeEntry entry v)

/-- What is done to the cell that a text names is done to a cell. -/
theorem exists_of_map_cellId {text : String} {f : CellId → Workbook}
    (h : (w.cellId text).map f = .ok w') :
    ∃ id, w' = f id := by
  cases hid : w.cellId text with
  | error fault =>
    rw [hid] at h
    cases h
  | ok id =>
    rw [hid] at h
    cases h
    exact ⟨id, rfl⟩

/-- A load runs some operations, and recalculates last of all unless it fails. -/
theorem load_cases {content : String} {outcome : Except Failure Nat}
    (loaded : w.load steps content order = (outcome, w')) :
    ∃ v, Runs w v ∧ ((∃ fault, outcome = .error fault ∧ w' = v) ∨
      ∃ count, outcome = .ok count ∧ v.recalculate steps = some w') := by
  unfold load at loaded
  -- The file may be faulty, a sheet may be refused, and the pass may not return.
  split at loaded
  next =>
    cases loaded
    exact ⟨w, .refl, .inl ⟨_, rfl, rfl⟩⟩
  next entries _ =>
    have adds := runs_addSheets order entries w
    split at loaded
    next fault v added =>
      rw [added] at adds
      cases loaded
      exact ⟨_, adds, .inl ⟨_, rfl, rfl⟩⟩
    next v added =>
      rw [added] at adds
      have writes := adds.trans (runs_writeEntries entries v)
      dsimp only at loaded
      split at loaded
      next w₁ done =>
        cases loaded
        exact ⟨_, writes, .inr ⟨_, rfl, done⟩⟩
      next =>
        cases loaded
        exact ⟨_, writes, .inl ⟨_, rfl, rfl⟩⟩

theorem drain_of_value {text : String} {value : Value}
    (asked : w.value steps text = .ok (value, w')) :
    w.drain steps = some w' := by
  obtain ⟨id, -, rest⟩ := exists_of_bind_eq_ok asked
  obtain ⟨v, settled, answer⟩ := exists_of_bind_eq_ok rest
  cases answer
  exact drain_of_settled settled

theorem drain_of_listing {cells : List (CellId × Value)}
    (listed : w.listing steps = .ok (cells, w')) :
    w.drain steps = some w' := by
  obtain ⟨v, settled, answer⟩ := exists_of_bind_eq_ok listed
  cases answer
  exact drain_of_settled settled

theorem SettlingCall.runs (call : SettlingCall w w') : Runs w w' := by
  cases call with
  | value asked => exact (Operation.drain (drain_of_value asked)).runs
  | recalculate done => exact (Operation.recalculate done).runs
  | preview previewed => exact (Operation.preview previewed).runs
  | listing listed => exact (Operation.drain (drain_of_listing listed)).runs
  | load loaded =>
    obtain ⟨v, runs, ⟨fault, failed, -⟩ | ⟨count, -, done⟩⟩ := load_cases loaded
    · cases failed
    · exact runs.tail (.recalculate done)

theorem Call.runs (call : Call w w') : Runs w w' := by
  cases call with
  | write written =>
    obtain ⟨id, rfl⟩ := exists_of_map_cellId written
    exact (Operation.write id _).runs
  | clear cleared =>
    obtain ⟨id, rfl⟩ := exists_of_map_cellId cleared
    exact (Operation.clear id).runs
  | addSheet added => exact (Operation.addSheet added).runs
  | addFunction f order => exact (Operation.addFunction f order).runs
  | settling call => exact call.runs
  | refusedLoad refused =>
    obtain ⟨v, runs, ⟨fault, -, rfl⟩ | ⟨count, succeeded, -⟩⟩ := load_cases refused
    · exact runs
    · cases succeeded
  | clock now => exact (Operation.clock now).runs

theorem Session.reachable (session : Session w) : w.Reachable := by
  induction session with
  | create settings now seed engine => exact .create settings now seed engine
  | call _ call ih => exact Reachable.of_runs ih call.runs

/-- A settling call ends in a pass that returns; after it, calls may still be counted. -/
theorem SettlingCall.drained (call : SettlingCall w w') (coherent : w.Coherent) :
    ∃ v w₁ steps calls, v.Coherent ∧ drain steps v = some w₁ ∧ w' = { w₁ with calls := calls } := by
  have marked (v : Workbook) : Marked v (v.volatileCells.foldl markDirty v) :=
    (marked_foldl_markDirty _ v).1
  cases call with
  | value asked => exact ⟨w, w', _, w'.calls, coherent, drain_of_value asked, rfl⟩
  | recalculate done => exact ⟨_, w', _, w'.calls, coherent.of_marked (marked w), done, rfl⟩
  | preview previewed =>
    obtain ⟨w₁, calls, drained, rfl⟩ := drain_of_preview previewed
    exact ⟨w, w₁, _, calls, coherent, drained, rfl⟩
  | listing listed => exact ⟨w, w', _, w'.calls, coherent, drain_of_listing listed, rfl⟩
  | load loaded =>
    obtain ⟨v, runs, ⟨fault, failed, -⟩ | ⟨count, -, done⟩⟩ := load_cases loaded
    · cases failed
    · exact ⟨_, w', _, w'.calls, (runs.coherent coherent).of_marked (marked v), done, rfl⟩

/-! ## Readers on record -/

theorem mem_volatileCells :
    x ∈ w.volatileCells ↔ ∃ c, w.cell? x = some c ∧ c.compiled.volatile = true := by
  unfold volatileCells
  rw [List.mem_filterMap]
  constructor
  · rintro ⟨⟨id, slot⟩, mem, h⟩
    -- A tombstone is no cell.
    cases slot with
    | tombstone => cases h
    | live c =>
      simp only at h
      split at h
      next volatile =>
        cases h
        exact ⟨c, live_mem_toList.1 mem, volatile⟩
      next => cases h
  · rintro ⟨c, hc, volatile⟩
    refine ⟨(x, .live c), live_mem_toList.2 hc, ?_⟩
    simp [volatile]

/-- **Who reads whom is on record.** Whatever calls were made: the readers on record of a cell are
the cells whose formulas read it, and never an empty set; a tombstone has readers, reads nothing
and is not volatile; and every cell has on record what its input would be compiled to now, with
the sheets and the functions that there are.

That a tombstone reads nothing and is not volatile is the data type's doing: a slot that was cleared
has no record for readings or volatility to be in (`Slot.tombstone`). That it has readers is kept by
the operations. -/
theorem readers_on_record (session : Session w) :
    (∀ x d, x ∈ w.dependentsOf d ↔ ∃ c, w.cell? x = some c ∧ d ∈ c.compiled.precedents) ∧
      (∀ (d : CellId) (ids : CellSet), w.dependents[d]? = some ids → ids ≠ ∅) ∧
      (∀ d, w.isTombstone d = true →
        (∃ x, x ∈ w.dependentsOf d) ∧ w.precedentsOf d = ∅ ∧ d ∉ w.volatileCells) ∧
      ∀ x c, w.cell? x = some c → c.compiled = w.compile x.sheet c.raw := by
  have coherent : w.Coherent := session.reachable.coherent
  refine ⟨fun x d => ?_, fun d ids h => ?_, fun d tombstone => ⟨?_, ?_, ?_⟩, fun x c hc => ?_⟩
  · rw [coherent.wired.mem_dependentsOf]
    constructor
    · intro reads
      obtain ⟨c, hc⟩ := Reads.cell? reads
      exact ⟨c, hc, (reads_of_cell? hc).1 reads⟩
    · rintro ⟨c, hc, mem⟩
      exact (reads_of_cell? hc).2 mem
  · obtain ⟨x, hx⟩ := coherent.wired.nonempty d ids h
    exact Std.ExtTreeSet.ne_empty_of_mem hx
  · obtain ⟨x, reads⟩ := coherent.wired.tombstone d tombstone
    exact ⟨x, (coherent.wired.mem_dependentsOf x d).2 reads⟩
  · unfold precedentsOf
    rw [cell?_of_isTombstone tombstone]
  · intro volatile
    obtain ⟨c, hc, -⟩ := mem_volatileCells.1 volatile
    rw [cell?_of_isTombstone tombstone] at hc
    cases hc
  · exact (coherent.sound x (by simp)).compiled c hc

/-- A formula names a sheet that is added later, in capitals, and another one reads a cell that is
cleared. -/
theorem readers_on_record_of_late_sheet :
    ∃ w : Workbook, Session w ∧ w.isTombstone ⟨0, ⟨0, 0⟩⟩ = true ∧ w.precedentsOf ⟨0, ⟨0, 0⟩⟩ = ∅ ∧
      ∃ c, w.cell? ⟨0, ⟨0, 1⟩⟩ = some c ∧ ⟨0, ⟨0, 1⟩⟩ ∈ w.dependentsOf ⟨1, ⟨0, 0⟩⟩ ∧
        ⟨1, ⟨0, 0⟩⟩ ∈ c.compiled.precedents ∧ c.compiled = w.compile 0 c.raw := by
  let w₀ := create Settings.default ⟨⟨2000, 1, 1⟩, 0⟩ 0
  let w₁ := (w₀.write "A1" "1").toOption.get (by decide +kernel)
  let w₂ := (w₁.write "B1" "=data!A1").toOption.get (by decide +kernel)
  let w₃ := (w₂.write "C1" "=A1").toOption.get (by decide +kernel)
  let w₄ := (w₃.clear "A1").toOption.get (by decide +kernel)
  let added := (w₄.addSheet "DATA").toOption.get (by decide +kernel)
  have written₁ : w₀.write "A1" "1" = .ok w₁ := eq_ok_get _ _
  have written₂ : w₁.write "B1" "=data!A1" = .ok w₂ := eq_ok_get _ _
  have written₃ : w₂.write "C1" "=A1" = .ok w₃ := eq_ok_get _ _
  have cleared : w₃.clear "A1" = .ok w₄ := eq_ok_get _ _
  have session₂ : Session w₂ := .call (.call (.create _ _ _ _) (.write written₁)) (.write written₂)
  have session₄ : Session w₄ := .call (.call session₂ (.write written₃)) (.clear cleared)
  have session : Session added.2 := session₄.addSheet (eq_ok_get _ _)
  obtain ⟨readers, -, tombstones, compiled⟩ := readers_on_record session
  have tombstone : added.2.isTombstone ⟨0, ⟨0, 0⟩⟩ = true := by decide +kernel
  have reads : (⟨0, ⟨0, 1⟩⟩ : CellId) ∈ added.2.dependentsOf ⟨1, ⟨0, 0⟩⟩ :=
    Std.ExtTreeSet.mem_toList.1 (by decide +kernel)
  obtain ⟨c, hc, mem⟩ := (readers _ _).1 reads
  have unread := (tombstones _ tombstone).2.1
  have current := compiled _ c hc
  exact ⟨added.2, session, tombstone, unread, c, hc, reads, mem, current⟩

end Spreadsheet.Workbook
