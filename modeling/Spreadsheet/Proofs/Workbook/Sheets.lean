import Spreadsheet.Proofs.Formula.RoundTrip
import Spreadsheet.Proofs.Recalculation.Rewriting
import Spreadsheet.Proofs.Workbook.Session

/-!
# `Proofs/Workbook/Sheets.lean` — sheets go by their names

The names of the sheets are told apart without regard to the case of Latin letters. A sheet is
found by its name because no sheet in front of it has the same one, and that is kept by whatever
is done to a workbook: a name that is there already adds no sheet (`Operation.sheetsNamed`).
Nothing else is asked of a name but that there is something in it and no white space around it;
the first one is taken from the configuration and may have any characters.

The text of an address puts such a name between apostrophes where that is needed. So it leads back
to its cell, whether it is read as the name of a cell or as a formula (`addresses_name_cells`).
-/

set_option autoImplicit false

namespace Spreadsheet.Workbook

variable {w w' : Workbook} {order : Enumeration} {id : CellId} {name : String}

/-! ## Names -/

/-- Each sheet has a name of its own, with no white space around it. -/
structure SheetsNamed (w : Workbook) : Prop where
  proper : ∀ name ∈ w.sheets, name ≠ "" ∧ Text.trimmed name = name
  distinct : w.sheets.Pairwise fun a b => Text.sameName a b = false

theorem SheetsNamed.of_sheets (named : w.SheetsNamed) (sheets : w'.sheets = w.sheets) :
    w'.SheetsNamed :=
  ⟨sheets ▸ named.proper, sheets ▸ named.distinct⟩

theorem sheetsNamed_create (settings : Settings) (now : Moment) (seed : Nat)
    (engine : Regex.Engine) : (create settings now seed engine).SheetsNamed where
  proper := by
    intro name mem
    rw [List.mem_singleton.1 mem, firstSheetName]
    split
    next => exact ⟨by decide, by decide⟩
    next nonempty => exact ⟨nonempty, Text.trimmed_trimmed _⟩
  distinct := List.pairwise_singleton _ _

/-- A name that no sheet goes by can be put in last. -/
theorem SheetsNamed.append (named : w.SheetsNamed) (nonempty : Text.trimmed name ≠ "")
    (missing : w.sheetNamed? (Text.trimmed name) = none)
    (sheets : w'.sheets = w.sheets ++ [Text.trimmed name]) :
    w'.SheetsNamed where
  proper := by
    intro other mem
    rw [sheets, List.mem_append, List.mem_singleton] at mem
    rcases mem with mem | rfl
    · exact named.proper other mem
    · exact ⟨nonempty, Text.trimmed_trimmed name⟩
  distinct := by
    rw [sheets, List.pairwise_append]
    refine ⟨named.distinct, List.pairwise_singleton _ _, fun other mem last hlast => ?_⟩
    rw [List.mem_singleton.1 hlast]
    simpa using List.findIdx?_eq_none_iff.1 missing other mem

/-! ## Operations -/

theorem sheets_foldl_recompile (ids : List CellId) (wired : w.Wired) :
    (ids.foldl recompile w).sheets = w.sheets := by
  induction ids generalizing w with
  | nil => rfl
  | cons id ids ih =>
    obtain ⟨-, -, sheets, wired'⟩ := compile_recompile wired id
    exact (ih wired').trans sheets

theorem sheetsNamed_addSheet (wired : w.Wired) (named : w.SheetsNamed) {sheet : Nat}
    (added : w.addSheet name order = .ok (sheet, w')) : w'.SheetsNamed := by
  unfold addSheet at added
  dsimp only at added
  split at added
  next => cases added
  next possible =>
    split at added
    next =>
      cases added
      exact named
    next missing =>
      cases added
      rw [Bool.not_eq_true, Bool.or_eq_false_iff, decide_eq_false_iff_not] at possible
      refine named.append possible.1 missing (sheets_foldl_recompile _ ?_)
      exact wired.of_records rfl rfl

/-- Whatever is done to a workbook, its sheets can be told apart by their names. -/
theorem Operation.sheetsNamed (operation : Operation w w') (coherent : w.Coherent)
    (named : w.SheetsNamed) :
    w'.SheetsNamed := by
  cases operation with
  | write id raw => exact named.of_sheets (edited_writeCell coherent.wired id raw).sheets
  | clear id =>
    rcases edited_clearCell coherent.wired id with same | edited
    · rwa [same]
    · exact named.of_sheets edited.sheets
  | addSheet added => exact sheetsNamed_addSheet coherent.wired named added
  | addFunction f order =>
    exact named.of_sheets (sheets_foldl_recompile _ (coherent.wired.of_records rfl rfl))
  | drain drained => exact named.of_sheets (coherent.drain drained).2.2.sheets
  | recalculate done => exact named.of_sheets (coherent.recalculate done).2.2.sheets
  | preview previewed =>
    obtain ⟨w₁, calls, drained, rfl⟩ := drain_of_preview previewed
    exact named.of_sheets (coherent.drain drained).2.2.sheets
  | clock now => exact named.of_sheets rfl

theorem Reachable.sheetsNamed (reachable : w.Reachable) : w.SheetsNamed := by
  induction reachable with
  | create settings now seed engine => exact sheetsNamed_create settings now seed engine
  | operation reachable operation _ ih => exact operation.sheetsNamed reachable.coherent ih

/-! ## Addresses -/

/-- The first sheet that goes by the name of a sheet is that sheet. -/
theorem SheetsNamed.sheetNamed? (named : w.SheetsNamed) {sheet : Nat}
    (there : sheet < w.sheets.length) :
    w.sheetNamed? w.sheets[sheet] = some sheet := by
  unfold Workbook.sheetNamed?
  rw [List.findIdx?_eq_some_iff_getElem]
  refine ⟨there, beq_self_eq_true _, fun other before => ?_⟩
  rw [List.pairwise_iff_getElem.1 named.distinct other sheet (before.trans there) there before]
  exact Bool.false_ne_true

theorem SheetsNamed.inBounds (named : w.SheetsNamed) (there : id.sheet < w.sheets.length)
    (row : id.position.row < Address.rowLimit) (column : id.position.column < Address.columnLimit) :
    (w.addressOf id).InBounds where
  row := row
  column := column
  sheet := by
    show w.sheets[id.sheet]? ≠ some ""
    rw [List.getElem?_eq_getElem there]
    exact fun unnamed => (named.proper _ (List.getElem_mem there)).1 (Option.some.inj unnamed)

theorem SheetsNamed.resolve?_addressOf (named : w.SheetsNamed) (there : id.sheet < w.sheets.length)
    (sheet : Nat) :
    w.resolve? sheet (w.addressOf id) = some id := by
  have sheet : w.sheetOf? sheet (w.addressOf id).sheet = some id.sheet := by
    show w.sheetOf? sheet w.sheets[id.sheet]? = some id.sheet
    rw [List.getElem?_eq_getElem there]
    exact named.sheetNamed? there
  rw [resolve?, sheet]
  rfl

/-- **Addresses name their own cells.** Whatever calls were made, the sheets have names with
something in them and no white space around, no two the same but for the case of Latin letters. So
the text of the address of a cell within the limits, on a sheet that there is, names that cell,
and as a formula it is a reference to that cell, on whatever sheet it stands. -/
theorem addresses_name_cells (session : Session w) :
    (∀ name ∈ w.sheets, name ≠ "" ∧ Text.trimmed name = name) ∧
      (w.sheets.Pairwise fun a b => Text.sameName a b = false) ∧
      ∀ id : CellId, id.sheet < w.sheets.length → id.position.row < Address.rowLimit →
        id.position.column < Address.columnLimit →
        w.cellId (w.addressOf id).text = .ok id ∧
          ∃ a, Formula.parse (w.addressOf id).text = .ok (.cell a) ∧ ∀ sheet,
          w.resolve? sheet a = some id := by
  have named := session.reachable.sheetsNamed
  refine ⟨named.proper, named.distinct, fun id there row column => ?_⟩
  have inBounds := named.inBounds there row column
  have found := named.resolve?_addressOf there
  refine ⟨?_, w.addressOf id, Formula.parse_cell inBounds, found⟩
  unfold cellId
  rw [Address.ofText?_text inBounds]
  simp only [found]

/-- A first sheet whose name no other sheet could be given, and two sheets whose names differ in
the case of an umlaut. -/
theorem addresses_name_cells_of_quoted :
    ∃ w : Workbook, Session w ∧ w.sheets = ["it's: Q1!", "Kosten ä", "KOSTEN Ä"] ∧
      (w.addressOf ⟨0, ⟨9, 0⟩⟩).text = "'it''s: Q1!'!A10" ∧
      w.cellId "'it''s: Q1!'!A10" = .ok ⟨0, ⟨9, 0⟩⟩ ∧
      (w.addressOf ⟨2, ⟨1048575, 18277⟩⟩).text = "'KOSTEN Ä'!ZZZ1048576" ∧
      w.cellId "'KOSTEN Ä'!ZZZ1048576" = .ok ⟨2, ⟨1048575, 18277⟩⟩ ∧
      ∃ a, Formula.parse "'KOSTEN Ä'!ZZZ1048576" = .ok (.cell a) ∧
        ∀ sheet, w.resolve? sheet a = some ⟨2, ⟨1048575, 18277⟩⟩ := by
  let w₀ := create { Settings.default with defaultSheet := " it's: Q1! " } ⟨⟨2000, 1, 1⟩, 0⟩ 0
  let added := (w₀.addSheet "Kosten ä").toOption.get (by decide +kernel)
  let again := (added.2.addSheet "\tKOSTEN Ä").toOption.get (by decide +kernel)
  have session₁ : Session added.2 := (Session.create _ _ _ _).addSheet (eq_ok_get _ _)
  have session : Session again.2 := session₁.addSheet (eq_ok_get _ _)
  have sheets : again.2.sheets = ["it's: Q1!", "Kosten ä", "KOSTEN Ä"] := by decide +kernel
  have first : (again.2.addressOf ⟨0, ⟨9, 0⟩⟩).text = "'it''s: Q1!'!A10" := by decide +kernel
  have last : (again.2.addressOf ⟨2, ⟨1048575, 18277⟩⟩).text = "'KOSTEN Ä'!ZZZ1048576" := by
    decide +kernel
  obtain ⟨-, -, named⟩ := addresses_name_cells session
  obtain ⟨own, -⟩ := named ⟨0, ⟨9, 0⟩⟩ (by decide +kernel) (by decide) (by decide)
  obtain ⟨found, parsed⟩ := named ⟨2, ⟨1048575, 18277⟩⟩ (by decide +kernel) (by decide) (by decide)
  rw [first] at own
  rw [last] at found parsed
  exact ⟨again.2, session, sheets, first, own, last, found, parsed⟩

end Spreadsheet.Workbook
