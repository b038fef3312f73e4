import Spreadsheet.Proofs.Recalculation.Termination
import Spreadsheet.Proofs.SheetFile.Reading
import Spreadsheet.Proofs.Text.Input
import Spreadsheet.Workbook.Load

/-!
# `Proofs/SheetFile/Quoting.lean` — a text is written in quotes

With a backslash in front of every quote and backslash, and in quotes, any text that has no line
feed makes a line of a sheet file that gives the text back, whatever it looks like. The
backslashes go first, when the line is read; of the quotes that are left, those of the text among
them, an input gives up the outermost two only. Loaded, the text is the value of its cell: what a
literal is compiled to reads nothing, so no loop and no other cell has a say in it.

The statement about loading is for every workbook that operations lead to, in which other cells
may wait or lie on loops. That a load returns there is more than can be said in general; it does
where loops share no cells.
-/

set_option autoImplicit false

namespace Spreadsheet

namespace SheetFile

/-! ## Lines -/

/-- A text with a backslash in front of every quote and backslash. -/
def escape (s : List Char) : List Char :=
  s.flatMap fun c => if c = '\\' ∨ c = '"' then ['\\', c] else [c]

/-- What was escaped is what it was. -/
theorem unescape_escape (s : List Char) : unescape (escape s) = s := by
  unfold escape
  induction s with
  | nil => rfl
  | cons c s ih =>
    rw [List.flatMap_cons]
    by_cases backslash : c = '\\'
    · subst backslash
      simp [unescape, ih]
    by_cases quote : c = '"'
    · subst quote
      simp [unescape, ih]
    · simp [unescape, backslash, quote, ih]

theorem not_mem_escape {c : Char} {s : List Char} (other : c ≠ '\\') (h : c ∉ s) :
    c ∉ escape s := by
  unfold escape
  intro mem
  obtain ⟨d, hd, mem⟩ := List.mem_flatMap.1 mem
  have ne : c ≠ d := fun same => h (same ▸ hd)
  split at mem <;> simp_all

/-- A quoted text keeps its quotes, and loses the backslashes. -/
theorem decode_quoted (s : List Char) :
    decode ('"' :: (escape s ++ ['"'])) = '"' :: (s ++ ['"']) := by
  unfold decode
  rw [Input.unquote?_quoted]
  simp only [unescape_escape]
  rfl

/-- The first cell of a sheet. -/
def firstCell : Address.Spelling where
  columnFixed := false
  letters := ['A']
  rowFixed := false
  digits := ['1']
  named := by decide
  short := by decide
  isLetter := List.forall_mem_singleton.2 rfl
  isDigit := List.forall_mem_singleton.2 rfl
  positive := by decide
  bounded := by decide

/-- The line that gives a text to the first cell. -/
def quotedLine (t : String) : String := "A1: \"" ++ String.ofList (escape t.toList) ++ "\""

theorem toList_quotedLine (t : String) :
    (quotedLine t).toList = ['A', '1'] ++ ':' :: ' ' :: '"' :: (escape t.toList ++ ['"']) := by
  unfold quotedLine
  simp

/-- The line is the cell, with the text in quotes for an input. -/
theorem means_quotedLine (t : String) :
    Means (quotedLine t).toList (.cell ⟨0, 0⟩ ("\"" ++ t ++ "\"")) := by
  have letter : Text.isBlank 'A' = false := by decide
  have quote : Text.isBlank '"' = false := by decide
  have last (s : List Char) :
    Text.StopsAt Text.isBlank (s ++ '"' :: (escape t.toList ++ ['"'])).reverse := by
    rw [← List.cons_append, ← List.append_assoc, List.reverse_append]
    exact Text.stopsAt_cons.2 quote
  -- Nothing can be trimmed off the line, which begins with a letter and ends with a quote.
  have line : Text.trim (quotedLine t).toList = ['A', '1'] ++ ':' :: ' ' :: '"' ::
    (escape t.toList ++ ['"']) := by
    rw [toList_quotedLine]
    exact Text.trim_of_visible (Text.stopsAt_cons.2 letter) (last ['A', '1', ':', ' '])
  have value : Text.trim (' ' :: '"' :: (escape t.toList ++ ['"'])) = '"' ::
    (escape t.toList ++ ['"']) :=
    Text.trim_of_visible (Text.stopsAt_cons.2 quote) (last [])
  have means := Means.cell (w := firstCell) line (by decide) (by decide)
  rw [value, decode_quoted] at means
  have input : String.ofList ('"' :: (t.toList ++ ['"'])) = "\"" ++ t ++ "\"" := by
    rw [← String.toList_inj]
    simp
  exact input ▸ means

theorem parse_quotedLine {t : String} (noFeed : '\n' ∉ t.toList) :
    parse (quotedLine t) = .ok [⟨none, ⟨0, 0⟩, "\"" ++ t ++ "\""⟩] := by
  have whole : Text.pieces '\n' (quotedLine t).toList = [(quotedLine t).toList] := by
    apply Text.pieces_of_not_mem
    rw [toList_quotedLine]
    simp [not_mem_escape (by decide) noFeed]
  unfold parse
  rw [whole, entriesFrom, (means_quotedLine t).read]
  rfl

end SheetFile

namespace Workbook

open SheetFile (quotedLine)

variable {w w' : Workbook} {order : Enumeration} {id x : CellId} {c : Cell} {s : Scalar}
    {raw t content : String} {p : Position} {n steps : Nat}

/-! ## Literals -/

/-- What a literal is compiled to reads nothing. -/
theorem compile_literal (w : Workbook) (sheet : Nat) (h : Input.classify raw = .literal s) :
    w.compile sheet raw = ⟨.literal s, ∅, false⟩ := by
  unfold compile
  rw [h]

/-- A cell that is settled has the value of its literal. -/
theorem Sound.value_of_literal (sound : w.Sound x) (hc : w.cell? x = some c)
    (settled : c.state.Settled) (h : Input.classify c.raw = .literal s) :
    c.value.Same (.scalar s) := by
  have compiled : c.compiled = ⟨.literal s, ∅, false⟩ :=
    (sound.compiled c hc).trans (w.compile_literal x.sheet h)
  have content : c.compiled.content = .literal s := by rw [compiled]
  -- A literal reads nothing, so it cannot have the error of a loop for a reason.
  have alone (d : CellId) : ¬ w.Reads x d := by
    rw [reads_of_cell? hc, compiled]
    exact Std.ExtTreeSet.not_mem_empty
  have stable : w.StableAt x := by
    intro c' hc'
    rw [hc] at hc'
    cases hc'
    rw [content]
    trivial
  have lawful : c.compiled.content.Lawful w.registry := by
    have typed : (w.compile x.sheet c.raw).content = .literal s := by
      rw [w.compile_literal x.sheet h]
    rw [content]
    exact same_of_compile typed
  rcases sound.consistent stable c hc settled lawful fun d reads => absurd reads (alone d) with
    same | ⟨-, d, reads, -⟩
  · rw [content] at same
    exact same
  · exact absurd reads (alone d)

theorem eq_text_of_same {v : Value} (same : v.Same (.text t)) : v = .text t := by
  cases same with
  | @scalar s _ h =>
    cases s with
    | text u => rw [beq_iff_eq.1 h]
    | _ => cases h

/-- A literal is on no loop, and takes its cell off those that it was on. -/
theorem Separate.writeCell_literal (separate : w.Separate) (wired : w.Wired)
    (h : Input.classify raw = .literal s) :
    (w.writeCell id raw).Separate := by
  have edited := edited_writeCell wired id raw
  refine fun x => (separate x).anti fun a b reads => ?_
  by_cases own : a = id
  · subst own
    rw [reads_of_cell? (cell?_writeCell_self wired a raw).1, w.compile_literal a.sheet h] at reads
    exact absurd reads Std.ExtTreeSet.not_mem_empty
  · exact (edited.reads_iff own).1 reads

/-! ## Loading -/

/-- A file of one line writes one cell. -/
theorem load_of_parse (steps : Nat) (w : Workbook) (order : Enumeration) {input : String}
    (parsed : SheetFile.parse content = .ok [⟨none, p, input⟩]) :
    w.load steps content order =
      match (w.writeCell ⟨defaultSheet, p⟩ input).recalculate steps with
      | some w' => (.ok 1, w')
      | none => (.error .unsettled, w.writeCell ⟨defaultSheet, p⟩ input) := by
  unfold load
  rw [parsed]
  rfl

/-- What was loaded of such a file is the only cell written, and it is settled on its literal. -/
theorem Coherent.load_literal (coherent : w.Coherent) {input : String}
    (parsed : SheetFile.parse content = .ok [⟨none, p, input⟩])
    (literal : Input.classify input = .literal s)
    (loaded : w.load steps content order = (.ok n, w')) :
    n = 1 ∧ w'.pending = [] ∧ ∃ c, w'.cell? ⟨defaultSheet, p⟩ = some c ∧ c.raw = input ∧
    c.value.Same (.scalar s) := by
  rw [load_of_parse steps w order parsed] at loaded
  split at loaded
  next book recalculated =>
    obtain ⟨rfl, rfl⟩ : 1 = n ∧ book = w' := by simpa using loaded
    -- The only entry is written into its cell, and the pass after that leaves the cell settled.
    have written := (cell?_writeCell_self coherent.wired ⟨defaultSheet, p⟩ input).1
    obtain ⟨sound, settled, text⟩ :=
      (coherent.writeCell ⟨defaultSheet, p⟩ input).recalculate recalculated
    obtain ⟨c, hc, raw, -⟩ := text.cell? written
    have raw : c.raw = input := raw
    have value := (sound.sound _ (by simp)).value_of_literal hc (settled _ c hc) (raw ▸ literal)
    exact ⟨rfl, pending_of_drain recalculated, c, hc, raw, value⟩
  next => cases loaded

/-- Such a file can be loaded where loops are separate. -/
theorem exists_load_literal (order : Enumeration) (reachable : w.ReachableWithin Separate)
    {input : String} (parsed : SheetFile.parse content = .ok [⟨none, p, input⟩])
    (literal : Input.classify input = .literal s) :
    ∃ steps w', w.load steps content order = (.ok 1, w') := by
  have separate : w.Separate := reachable.within separate_create
  have apart : (w.writeCell ⟨defaultSheet, p⟩ input).Separate :=
    separate.writeCell_literal reachable.coherent.wired literal
  have written : (w.writeCell ⟨defaultSheet, p⟩ input).ReachableWithin Separate :=
    .operation reachable (.write _ _) apart
  obtain ⟨steps, w', recalculated⟩ := written.coherent.exists_recalculate_of_separate apart fun x =>
    (written.mono fun _ separate => separate x).surfaces
  refine ⟨steps, w', ?_⟩
  rw [load_of_parse steps w order parsed, recalculated]

/-- A value that waits for nothing is there for the asking. -/
theorem value_of_settled (w : Workbook) {text : String} (named : w.cellId text = .ok id)
    (pending : w.pending = []) (more : Nat) :
    w.value (more + 1) text = .ok (w.settledValue id, w) := by
  have drained : w.drain (more + 1) = some w := by
    unfold drain Pass.run Pass.step
    simp only [pending]
  unfold value settled
  rw [named, drained]
  rfl

/-- **A text that is written in quotes is read back.** Whatever a text looks like, if it has no
line feed, then with a backslash in front of each of its quotes and backslashes, and in quotes, it
makes a line that holds one cell, whose input is the text. Once such a file is loaded, into
whatever workbook, the text is what was typed into the cell and its value; and it can be loaded
wherever loops are separate, as they are in a new workbook. -/
theorem quoted_text_is_read_back (noFeed : '\n' ∉ t.toList) :
    SheetFile.parse (quotedLine t) = .ok [⟨none, ⟨0, 0⟩, "\"" ++ t ++ "\""⟩] ∧
    Input.classify ("\"" ++ t ++ "\"") = .literal (.text t) ∧
    (∀ (w w' : Workbook) (order : Enumeration) (steps n : Nat), w.Reachable →
      w.load steps (quotedLine t) order = (.ok n, w') →
      n = 1 ∧ w'.input "A1" = .ok (.literal (.text t)) ∧ ∀ more,
      w'.value (more + 1) "A1" = .ok (.text t, w')) ∧
    ∀ (w : Workbook) (order : Enumeration), w.ReachableWithin Separate →
      ∃ steps w', w.load steps (quotedLine t) order = (.ok 1, w') := by
  have parsed := SheetFile.parse_quotedLine noFeed
  have literal := Input.classify_quoted t
  refine ⟨parsed, literal, fun w w' order steps n reachable loaded => ?_,
    fun w order reachable => exists_load_literal order reachable parsed literal⟩
  obtain ⟨rfl, pending, c, hc, raw, same⟩ := reachable.coherent.load_literal parsed literal loaded
  have first : Address.ofText? "A1" = some ⟨none, 0, 0, false, false⟩ := by decide +kernel
  have named : w'.cellId "A1" = .ok ⟨defaultSheet, ⟨0, 0⟩⟩ := by
    unfold cellId
    rw [first]
    rfl
  have value : w'.settledValue ⟨defaultSheet, ⟨0, 0⟩⟩ = .text t := by
    rw [settledValue_of_cell? hc, eq_text_of_same same]
  refine ⟨rfl, ?_, fun more => ?_⟩
  · unfold input Workbook.raw
    rw [named, Except.map, Except.map, hc, Option.map_some, Option.getD_some, raw, literal]
  · rw [w'.value_of_settled named pending more, value]

/-- A text that looks like a formula behind a blank, with a colon, and with a backslash and a
quote at its end, in a new workbook. -/
theorem quoted_text_is_read_back_of_formula :
    let w := create Settings.default ⟨⟨2000, 1, 1⟩, 0⟩ 0
    let t := " =\"B1\": C1\\\""
    '\n' ∉ t.toList ∧ quotedLine t = "A1: \" =\\\"B1\\\": C1\\\\\\\"\"" ∧
      ∃ steps w', w.load steps (quotedLine t) = (.ok 1, w') ∧
      w'.value 1 "A1" = .ok (.text t, w') := by
  intro w t
  have noFeed : '\n' ∉ t.toList := by decide +kernel
  obtain ⟨-, -, holds, loads⟩ := quoted_text_is_read_back noFeed
  obtain ⟨steps, w', loaded⟩ := loads w .sorted (.create _ _ _ _)
  exact ⟨noFeed, by decide +kernel, steps, w', loaded,
    (holds w w' .sorted steps 1 (.create _ _ _ _) loaded).2.2 0⟩

end Workbook

end Spreadsheet
