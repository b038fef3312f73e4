import Spreadsheet.Proofs.Recalculation.Rewriting
import Spreadsheet.Proofs.Workbook.Session

/-!
# `Proofs/Workbook/FailedLoad.lean` — what a load that fails leaves behind

A load is refused for one of two reasons. A faulty line is found before anything is done, and the
workbook is what it was. A name that no sheet can have is found while the sheets of the file are
added, one after the other, and those in front of it have been added by then; the formulas that
waited for them are compiled again, and wait to be evaluated (`failed_load_can_grow`).

So a load that fails leaves the workbook alone exactly if every sheet that it names in front of
the impossible one is there already (`failed_load_keeps_workbook`). In any case no cell of the
file is written, and nothing typed and no value on record is lost.
-/

set_option autoImplicit false

namespace Spreadsheet.Workbook

variable {w w' v : Workbook} {order : Enumeration} {id x : CellId} {name : String} {fault : Failure}
    {entries : List SheetFile.Entry}

/-! ## Growing -/

/-- Sheets were put in last. Of the cells, what was typed and the values on record are what they
were. -/
structure Grown (w v : Workbook) : Prop where
  sheets : ∃ added, v.sheets = w.sheets ++ added
  raw (x : CellId) : (v.cell? x).map Cell.raw = (w.cell? x).map Cell.raw
  value (x : CellId) : v.settledValue x = w.settledValue x

namespace Grown

theorem refl (w : Workbook) : Grown w w :=
  ⟨⟨[], (List.append_nil _).symm⟩, fun _ => rfl, fun _ => rfl⟩

theorem trans (first : Grown w v) (second : Grown v w') : Grown w w' where
  sheets := by
    obtain ⟨added, eq⟩ := first.sheets
    obtain ⟨more, eq'⟩ := second.sheets
    exact ⟨added ++ more, by rw [eq', eq, List.append_assoc]⟩
  raw x := (second.raw x).trans (first.raw x)
  value x := (second.value x).trans (first.value x)

/-- Nothing that was there before makes room. -/
theorem length_le (grown : Grown w v) : w.sheets.length ≤ v.sheets.length := by
  obtain ⟨added, eq⟩ := grown.sheets
  rw [eq, List.length_append]
  exact Nat.le_add_right _ _

end Grown

/-- A cell that is compiled again keeps its value on record until it is evaluated. -/
theorem settledValue_recompile (wired : w.Wired) (id x : CellId) :
    (w.recompile id).settledValue x = w.settledValue x := by
  cases hc : w.cell? id with
  | none =>
    unfold recompile
    rw [hc]
  | some c =>
    rw [recompile_of_cell? hc]
    by_cases hx : x = id
    · subst hx
      exact settledValue_of_cell? (cell?_writeCell_self wired x c.raw).1
    · exact (edited_writeCell wired id c.raw).settledValue hx

theorem grown_recompile (wired : w.Wired) (id : CellId) : Grown w (w.recompile id) where
  sheets := ⟨[], by rw [(compile_recompile wired id).2.2.1, List.append_nil]⟩
  raw := (typedAlike_recompile wired id).raw
  value := settledValue_recompile wired id

theorem grown_foldl_recompile (ids : List CellId) (wired : w.Wired) :
    Grown w (ids.foldl recompile w) ∧ (ids.foldl recompile w).Wired := by
  induction ids generalizing w with
  | nil => exact ⟨.refl w, wired⟩
  | cons id ids ih =>
    obtain ⟨grown, wired'⟩ := ih (compile_recompile wired id).2.2.2
    exact ⟨(grown_recompile wired id).trans grown, wired'⟩

/-! ## Adding sheets -/

/-- A name that no sheet can have. -/
def Impossible (name : String) : Prop :=
  Text.trimmed name = "" ∨ (Text.trimmed name).toList.any isReserved = true

/-- There is a sheet of this name. -/
def HasSheet (w : Workbook) (name : String) : Prop :=
  (w.sheetNamed? (Text.trimmed name)).isSome = true

/-- Adding a sheet is refused, or changes nothing, or puts one sheet in last. -/
theorem addSheet_outcome (order : Enumeration) (wired : w.Wired) (name : String) :
    (Impossible name ∧ w.addSheet name order = .error (.invalidSheetName (Text.trimmed name))) ∨
      (w.HasSheet name ∧ ∃ sheet, w.addSheet name order = .ok (sheet, w)) ∨
      (¬ w.HasSheet name ∧ ∃ v, w.addSheet name order = .ok (w.sheets.length, v) ∧
          Grown w v ∧ v.Wired ∧
        w.sheets.length < v.sheets.length) := by
  unfold addSheet
  dsimp only
  split
  next impossible =>
    refine .inl ⟨?_, rfl⟩
    unfold Impossible
    simpa using impossible
  next =>
    unfold HasSheet
    cases found : w.sheetNamed? (Text.trimmed name) with
    | some sheet => exact .inr (.inl ⟨rfl, sheet, rfl⟩)
    | none =>
      -- The sheet is put in first, and then the formulas that name it are compiled again.
      let added : Workbook := { w with sheets := w.sheets ++ [Text.trimmed name] }
      have wired' : added.Wired := wired.of_records rfl rfl
      have grown : Grown w added := ⟨⟨[Text.trimmed name], rfl⟩, fun _ => rfl, fun _ => rfl⟩
      obtain ⟨grown', wired''⟩ :=
        grown_foldl_recompile
          (order.arrange added (added.formulasWhere (namesSheet (Text.trimmed name)))) wired'
      have longer : w.sheets.length < added.sheets.length := by
        simp only [added, List.length_append, List.length_singleton]
        omega
      exact .inr (.inr ⟨by simp, _, rfl, grown.trans grown', wired'',
        longer.trans_le grown'.length_le⟩)

/-- Only an impossible name is refused. -/
theorem addSheet_of_error (wired : w.Wired) (refused : w.addSheet name order = .error fault) :
    Impossible name ∧ fault = .invalidSheetName (Text.trimmed name) := by
  rcases addSheet_outcome order wired name with ⟨impossible, eq⟩ | ⟨-, sheet, eq⟩ |
    ⟨-, u, eq, -⟩ <;> rw [refused] at eq <;> cases eq
  exact ⟨impossible, rfl⟩

/-- Adding the sheets of a file stops at the first impossible name, and the sheets in front of it
have been added. -/
theorem addSheets_of_error (failed : w.addSheets order entries = (.error fault, w')) :
    ∃ before entry after name, entries = before ++ entry :: after ∧ entry.sheet = some name ∧
      w.addSheets order before = (.ok (), w') ∧ w'.addSheet name order = .error fault := by
  -- By induction on the entries, each added to the workbook that the ones before have left.
  induction entries generalizing w with
  | nil => cases failed
  | cons entry rest ih =>
    unfold addSheets at failed
    cases hs : entry.sheet with
    | none =>
      rw [hs] at failed
      obtain ⟨before, entry', after, name, rfl, named, added, refused⟩ := ih failed
      refine ⟨entry :: before, entry', after, name, rfl, named, ?_, refused⟩
      rw [addSheets, hs]
      exact added
    | some n =>
      rw [hs] at failed
      cases ha : w.addSheet n order with
      | error e =>
        simp only [ha, Prod.mk.injEq, Except.error.injEq] at failed
        obtain ⟨rfl, rfl⟩ := failed
        exact ⟨[], entry, rest, n, rfl, hs, rfl, ha⟩
      | ok answer =>
        simp only [ha] at failed
        obtain ⟨before, entry', after, name, rfl, named, added, refused⟩ := ih failed
        refine ⟨entry :: before, entry', after, name, rfl, named, ?_, refused⟩
        rw [addSheets, hs]
        simp only [ha]
        exact added

/-- Adding the sheets that entries name changes the workbook unless all of them are there. -/
theorem addSheets_of_ok (wired : w.Wired) (added : w.addSheets order entries = (.ok (), v)) :
    Grown w v ∧ ((∀ name ∈ entries.filterMap SheetFile.Entry.sheet, w.HasSheet name) → v = w) ∧
      (v.sheets.length = w.sheets.length →
        ∀ name ∈ entries.filterMap SheetFile.Entry.sheet, w.HasSheet name) := by
  induction entries generalizing w with
  | nil =>
    cases added
    exact ⟨.refl _, fun _ => rfl, fun _ _ mem => absurd mem (by simp)⟩
  | cons entry rest ih =>
    unfold addSheets at added
    cases hs : entry.sheet with
    | none =>
      rw [hs] at added
      rw [List.filterMap_cons_none hs]
      exact ih wired added
    | some n =>
      rw [hs] at added
      rw [List.filterMap_cons_some hs, List.forall_mem_cons]
      -- A sheet that is missing makes the workbook longer, and none of the later ones can make it
      -- shorter.
      rcases addSheet_outcome order wired n with ⟨-, refused⟩ | ⟨there, sheet, eq⟩ |
        ⟨missing, u, eq, grown, wired', longer⟩
      · simp only [refused, Prod.mk.injEq, reduceCtorEq, false_and] at added
      · simp only [eq] at added
        obtain ⟨grown, stays, known⟩ := ih wired added
        exact ⟨grown, fun all => stays all.2, fun same => ⟨there, known same⟩⟩
      · simp only [eq] at added
        obtain ⟨grown', -, -⟩ := ih wired' added
        refine ⟨grown.trans grown', fun all => absurd all.1 missing, fun same => ?_⟩
        exact absurd same (Nat.ne_of_gt (longer.trans_le grown'.length_le))

/-! ## Loads -/

/-- A load that returns with a fault found it in a line or while it added the sheets. -/
theorem load_of_error {steps : Nat} {content : String}
    (failed : w.load steps content order = (.error fault, w')) (returned : fault ≠ .unsettled) :
    (∃ number line, SheetFile.parse content = .error (number, line) ∧
        fault = .malformedLine number line ∧ w' = w) ∨
      ∃ entries, SheetFile.parse content = .ok entries ∧
      w.addSheets order entries = (.error fault, w') := by
  unfold load at failed
  cases parsed : SheetFile.parse content with
  | error found =>
    obtain ⟨number, line⟩ := found
    simp only [parsed, Prod.mk.injEq, Except.error.injEq] at failed
    obtain ⟨rfl, rfl⟩ := failed
    exact .inl ⟨number, line, rfl, rfl, rfl⟩
  | ok entries =>
    simp only [parsed] at failed
    cases added : w.addSheets order entries with
    | mk outcome v =>
      cases outcome with
      | ok _ =>
        -- Once all sheets are there, only the pass can fail to return.
        simp only [added] at failed
        split at failed
        · cases failed
        · cases failed
          exact absurd rfl returned
      | error fault' =>
        simp only [added, Prod.mk.injEq, Except.error.injEq] at failed
        obtain ⟨rfl, rfl⟩ := failed
        exact .inr ⟨entries, rfl, added⟩

/-- **A load that fails adds sheets at most.** It is refused for a faulty line, and changes
nothing, or for an impossible name of a sheet. Then it changes nothing exactly if all sheets that
the file names in front of that one are there already. Otherwise they have been added, and
formulas that named them wait; but what is typed in the cells and the values on record are what
they were. -/
theorem failed_load_keeps_workbook (reachable : w.Reachable) {steps : Nat} {content : String}
    (failed : w.load steps content order = (.error fault, w')) (returned : fault ≠ .unsettled) :
    (∃ number line, SheetFile.parse content = .error (number, line) ∧
        fault = .malformedLine number line ∧ w' = w) ∨
      ∃ before entry after name, SheetFile.parse content = .ok (before ++ entry :: after) ∧
        entry.sheet = some name ∧
        Impossible name ∧ fault = .invalidSheetName (Text.trimmed name) ∧ Grown w w' ∧
        (w' = w ↔ ∀ e ∈ before, ∀ n, e.sheet = some n → w.HasSheet n) := by
  have coherent := reachable.coherent
  obtain faulty | ⟨entries, parsed, stopped⟩ := load_of_error failed returned
  · exact .inl faulty
  obtain ⟨before, entry, after, name, rfl, named, added, refused⟩ := addSheets_of_error stopped
  obtain ⟨grown, stays, known⟩ := addSheets_of_ok coherent.wired added
  have runs := runs_addSheets order before w
  rw [added] at runs
  obtain ⟨impossible, rfl⟩ := addSheet_of_error (Runs.coherent runs coherent).wired refused
  -- The sheets in front of the impossible one are those that its entries name.
  have named_iff : (∀ n ∈ before.filterMap SheetFile.Entry.sheet, w.HasSheet n) ↔
      ∀ e ∈ before, ∀ n, e.sheet = some n → w.HasSheet n := by
    simp only [List.mem_filterMap]
    exact ⟨fun h e he n hn => h n ⟨e, he, hn⟩, fun h n ⟨e, he, hn⟩ => h e he n hn⟩
  rw [named_iff] at stays known
  exact .inr ⟨before, entry, after, name, parsed, named, impossible, rfl, grown,
    fun same => known (by rw [same]), stays⟩

/-- A file that names a sheet that is there and then an impossible one leaves the workbook alone,
and the cell in it that waits. -/
theorem failed_load_keeps_workbook_of_known :
    ∃ (w w' : Workbook) (fault : Failure), w.Reachable ∧ w.pending = [⟨0, ⟨0, 0⟩⟩] ∧
      w.load 20 "[sheet1]\nA1: 5\n[Bad!]\nA1: 1" = (.error fault, w') ∧ fault ≠ .unsettled ∧
      w' = w := by
  let w := (create Settings.default ⟨⟨2000, 1, 1⟩, 0⟩ 0).writeCell ⟨0, ⟨0, 0⟩⟩ "=B1"
  have reachable : w.Reachable := (reachable_create _ _ _ _).write _ _
  obtain ⟨waits, answer, parsed, known⟩ : w.pending = [⟨0, ⟨0, 0⟩⟩] ∧
      (w.load 20 "[sheet1]\nA1: 5\n[Bad!]\nA1: 1").1 = .error (.invalidSheetName "Bad!") ∧
      SheetFile.parse "[sheet1]\nA1: 5\n[Bad!]\nA1: 1" =
        .ok [⟨some "sheet1", ⟨0, 0⟩, "5"⟩, ⟨some "Bad!", ⟨0, 0⟩, "1"⟩] ∧
      (w.sheetNamed? (Text.trimmed "sheet1")).isSome = true := by decide +kernel
  refine ⟨w, _, .invalidSheetName "Bad!", reachable, waits, Prod.ext answer rfl, nofun, ?_⟩
  rcases failed_load_keeps_workbook reachable (Prod.ext answer rfl) nofun with
    ⟨number, line, faulty, -⟩ | ⟨before, entry, after, name, read, -, -, -, -, keeps⟩
  · rw [parsed] at faulty
    cases faulty
  · rw [parsed] at read
    refine keeps.2 fun e he n named => ?_
    match before, read, he with
    | [e'], read, he =>
      cases read
      cases List.mem_singleton.1 he
      cases named
      exact known
    | _ :: _ :: rest, read, _ => simp at read

/-- A load that fails can change a workbook: here it adds a sheet, which takes the value of a
settled cell away. -/
theorem failed_load_can_grow :
    ∃ (w w' v : Workbook) (fault : Failure), w.Reachable ∧ w.AllSettled ∧
      w.load 20 "[Data]\nA1: 5\n[Bad!]\nA1: 1" = (.error fault, w') ∧ fault ≠ .unsettled ∧
      w.sheets = ["Sheet1"] ∧ w'.sheets = ["Sheet1", "Data"] ∧ w.state? ⟨0, ⟨0, 0⟩⟩ = some .error ∧
      w'.state? ⟨0, ⟨0, 0⟩⟩ = some .dirty ∧ w'.drain 20 = some v ∧
      ¬ (v.settledValue ⟨0, ⟨0, 0⟩⟩).Same (w.settledValue ⟨0, ⟨0, 0⟩⟩) := by
  let written := (create Settings.default ⟨⟨2000, 1, 1⟩, 0⟩ 0).writeCell ⟨0, ⟨0, 0⟩⟩ "=Data!A1"
  have reachable : written.Reachable := (reachable_create _ _ _ _).write _ _
  let w := (written.drain 20).get (by decide +kernel)
  have drained : written.drain 20 = some w := (Option.some_get _).symm
  let w' := (w.load 20 "[Data]\nA1: 5\n[Bad!]\nA1: 1").2
  let v := (w'.drain 20).get (by decide +kernel)
  obtain ⟨answer, sheets, sheets', state, state', value⟩ :
      (w.load 20 "[Data]\nA1: 5\n[Bad!]\nA1: 1").1 = .error (.invalidSheetName "Bad!") ∧
      w.sheets = ["Sheet1"] ∧
        w'.sheets = ["Sheet1", "Data"] ∧ w.state? ⟨0, ⟨0, 0⟩⟩ = some .error ∧
        w'.state? ⟨0, ⟨0, 0⟩⟩ = some .dirty ∧
        (v.settledValue ⟨0, ⟨0, 0⟩⟩).same (w.settledValue ⟨0, ⟨0, 0⟩⟩) = false := by decide +kernel
  refine ⟨w, w', v, .invalidSheetName "Bad!", reachable.drain drained,
    (reachable.coherent.drain drained).2.1, Prod.ext answer rfl, nofun, sheets, sheets',
    state, state',
    (Option.some_get _).symm, fun same => ?_⟩
  rw [Value.same_iff.2 same] at value
  cases value

end Spreadsheet.Workbook
