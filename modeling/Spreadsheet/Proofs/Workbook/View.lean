import Spreadsheet.Proofs.Evaluation.Lawful
import Spreadsheet.Proofs.Evaluation.Provenance
import Spreadsheet.Proofs.Workbook.Cells

/-!
# `Proofs/Workbook/View.lean` — a formula looks at nothing but its precedents

The cells that a formula reads are worked out once, from its tree, when it is compiled; evaluation
goes through the tree again and looks sheets and ranges up on its own. The two agree: whatever
evaluation looks at is among the precedents (`mem_precedentsOn_of_cell`,
`mem_precedentsOn_of_range`).

So two workbooks that look alike to a formula, and have the same values at its precedents, give it
the same value (`evaluated_same`), and an error of a loop in its value was at one of them
(`evaluated_contains_cycle`).
-/

set_option autoImplicit false

namespace Spreadsheet

namespace Workbook

variable {w w' : Workbook} {sheet : Nat} {e : Expr}

/-! ## What evaluation looks at -/

theorem mem_precedentsOn {r : Reference} {d : CellId} (hr : r ∈ e.references)
    (hd : d ∈ w.covered sheet r) :
    d ∈ w.precedentsOn sheet e := by
  unfold precedentsOn
  rw [Std.ExtTreeSet.mem_ofList, List.contains_iff_mem, List.mem_flatMap]
  exact ⟨r, Expr.mem_firstOfEach.2 hr, hd⟩

theorem mem_precedentsOn_of_cell {a : Address} {d : CellId} (ha : .cell a ∈ e.parts)
    (hd : w.resolve? sheet a = some d) : d ∈ w.precedentsOn sheet e := by
  refine mem_precedentsOn (Expr.mem_references_of_part rfl ha) ?_
  show d ∈ (w.resolve? sheet a).toList
  rw [hd]
  exact List.mem_singleton.2 rfl

theorem mem_precedentsOn_of_range {r : Range} {target : Nat} (hr : .range r ∈ e.parts)
    (ht : w.sheetOf? sheet r.sheet = some target)
    (admitted : Environment.admitsRange w.settings.maxRangeCells r = true) (i : Fin r.rows)
    (j : Fin r.columns) :
    (⟨target, r.offset i j⟩ : CellId) ∈ w.precedentsOn sheet e := by
  refine mem_precedentsOn (Expr.mem_references_of_part rfl hr) ?_
  unfold covered
  simp only [ht, admitted, if_true]
  refine List.mem_map.2 ⟨r.offset i j, ?_, rfl⟩
  unfold Range.positions
  exact List.mem_flatMap.2 ⟨i, List.mem_range.2 i.isLt,
    List.mem_map.2 ⟨j, List.mem_range.2 j.isLt, rfl⟩⟩

/-! ## Values of contents -/

/-- All that the values of formulas on a sheet depend on, if the cells had some values. -/
def environmentOver (w : Workbook) (values : CellId → Value) (sheet : Nat) : Environment :=
  { w.environment sheet with
    cells :=
      { w.reader sheet with
        value := fun a =>
          match w.resolve? sheet a with
          | some id => values id
          | none => .error .badReference } }

/-- What a formula sees of a cell named on its own. -/
theorem environmentOver_cell (w : Workbook) (values : CellId → Value) (sheet : Nat) (a : Address) :
    (w.environmentOver values sheet).cell a =
      match w.resolve? sheet a with
      | some d => if w.isTombstone d then .error .badReference else values d
      | none => .error .badReference := by
  unfold Environment.cell environmentOver environment reader resolve?
  cases h : w.sheetOf? sheet a.sheet with
  | none => simp [h]
  | some target => simp [h]

/-- What a formula sees of a range. -/
theorem environmentOver_range (w : Workbook) (values : CellId → Value) (sheet : Nat) (r : Range) :
    (w.environmentOver values sheet).range r =
      match w.sheetOf? sheet r.sheet with
      | some target =>
        if Environment.admitsRange w.settings.maxRangeCells r then
          .block ⟨r.rows, r.columns, fun i j => values ⟨target, r.offset i j⟩⟩
        else .error .badReference
      | none => .error .badReference := by
  unfold Environment.range environmentOver environment reader resolve? Range.addressAt
    Address.ofPosition
  cases h : w.sheetOf? sheet r.sheet with
  | none => simp [h]
  | some target => simp [h, Address.position]

/-- The value that a compiled input would have, if the cells had some values. -/
def contentOver (w : Workbook) (values : CellId → Value) (sheet : Nat) : Content → Value
  | .literal s => .scalar s
  | .invalid _ => .error .unknownName
  | .formula e => (e.evaluate (w.environmentOver values sheet) w.calls).1

/-- The value of a compiled input. -/
def evaluated (w : Workbook) (sheet : Nat) (content : Content) : Value :=
  (w.evaluateContent sheet content).1

/-- It is found over the values on record. -/
theorem evaluated_eq (w : Workbook) (sheet : Nat) (content : Content) :
    w.evaluated sheet content = w.contentOver w.settledValue sheet content := by
  cases content <;> rfl

/-- Two workbooks that look alike to a formula on a sheet, whatever the values. -/
structure LooksAlike (w w' : Workbook) (sheet : Nat) (e : Expr) : Prop where
  limit : w'.settings.maxRangeCells = w.settings.maxRangeCells
  sheetOf (r : Reference) : r ∈ e.references → w'.sheetOf? sheet r.sheet = w.sheetOf? sheet r.sheet
  find (name : String) (args : List Expr) :
    .call name args ∈ e.parts → w'.registry.find? name = w.registry.find? name
  tombstone (d : CellId) : d ∈ w.precedentsOn sheet e → w'.isTombstone d = w.isTombstone d

/-- Two workbooks that a formula on a sheet sees alike, whatever the values. A tombstone inside a
range is an empty cell to it, so tombstones count only where a cell is named on its own. -/
structure SeesAlike (w w' : Workbook) (sheet : Nat) (e : Expr) : Prop where
  limit : w'.settings.maxRangeCells = w.settings.maxRangeCells
  sheetOf (r : Reference) : r ∈ e.references → w'.sheetOf? sheet r.sheet = w.sheetOf? sheet r.sheet
  find (name : String) (args : List Expr) :
    .call name args ∈ e.parts → w'.registry.find? name = w.registry.find? name
  tombstone (a : Address) (d : CellId) :
    .cell a ∈ e.parts → w.resolve? sheet a = some d → w'.isTombstone d = w.isTombstone d

end Workbook

/-- A content made of lawful functions; what a literal holds is a number if it is one at all. -/
def Content.Lawful (registry : Registry) : Content → Prop
  | .literal s => s.same s = true
  | .formula e => e.Lawful registry
  | .invalid _ => True

/-- A content that calls stable functions only. -/
def Content.Stable (registry : Registry) : Content → Prop
  | .formula e => e.Stable registry
  | _ => True

/-- A content that calls only functions that do not make up the error of a loop. -/
def Content.CycleSafe (registry : Registry) : Content → Prop
  | .formula e => e.CycleSafe registry
  | _ => True

namespace Workbook

variable {w w' : Workbook} {sheet : Nat} {e : Expr}

/-! ## What formulas see alike -/

theorem LooksAlike.seesAlike (alike : LooksAlike w w' sheet e) : SeesAlike w w' sheet e where
  limit := alike.limit
  sheetOf := alike.sheetOf
  find := alike.find
  tombstone _ d ha hd := alike.tombstone d (mem_precedentsOn_of_cell ha hd)

/-- Workbooks with the same sheets, functions and configuration are seen alike by a formula if the
cells that it names on their own are tombstones in both or in neither. -/
theorem seesAlike_of_eq (settings : w'.settings = w.settings) (registry : w'.registry = w.registry)
    (sheets : w'.sheets = w.sheets)
    (tombstone : ∀ a d, .cell a ∈ e.parts → w.resolve? sheet a = some d →
      w'.isTombstone d = w.isTombstone d) :
    SeesAlike w w' sheet e where
  limit := by rw [settings]
  sheetOf r _ := by
    unfold sheetOf? sheetNamed?
    rw [sheets]
  find name args _ := by rw [registry]
  tombstone := tombstone

section
variable {R : Value → Value → Prop} {values values' : CellId → Value}

/-- What is related at the precedents is related where a cell is named on its own. -/
theorem SeesAlike.cell (alike : SeesAlike w w' sheet e)
    (error : ∀ code, R (.error code) (.error code))
    (related : ∀ d ∈ w.precedentsOn sheet e, R (values d) (values' d)) {a : Address}
    (ha : .cell a ∈ e.parts) :
    R ((w.environmentOver values sheet).cell a) ((w'.environmentOver values' sheet).cell a) := by
  have resolve : w'.resolve? sheet a = w.resolve? sheet a := by
    unfold resolve?
    have sheetOf := alike.sheetOf (.cell a) (Expr.mem_references_of_part rfl ha)
    rw [show w'.sheetOf? sheet a.sheet = w.sheetOf? sheet a.sheet from sheetOf]
  rw [environmentOver_cell, environmentOver_cell, resolve]
  cases hd : w.resolve? sheet a with
  | none => exact error _
  | some d =>
    simp only [alike.tombstone a d ha hd]
    split
    · exact error _
    · exact related d (mem_precedentsOn_of_cell ha hd)

/-- What is related at the precedents is related all over a range. -/
theorem SeesAlike.range (alike : SeesAlike w w' sheet e)
    (error : ∀ code, R (.error code) (.error code))
      (block : ∀ (rows columns : Nat) (entry entry' : Fin rows → Fin columns → Value),
      (∀ i j, R (entry i j) (entry' i j)) → R (.block ⟨rows, columns, entry⟩)
      (.block ⟨rows, columns, entry'⟩))
    (related : ∀ d ∈ w.precedentsOn sheet e, R (values d) (values' d)) {r : Range}
    (hr : .range r ∈ e.parts) :
    R ((w.environmentOver values sheet).range r) ((w'.environmentOver values' sheet).range r) := by
  have sheetOf : w'.sheetOf? sheet r.sheet = w.sheetOf? sheet r.sheet :=
    alike.sheetOf (.range r) (Expr.mem_references_of_part rfl hr)
  rw [environmentOver_range, environmentOver_range, sheetOf, alike.limit]
  -- The sheet may not be there, and the range may be too large; then there is an error in both.
  cases ht : w.sheetOf? sheet r.sheet with
  | none => exact error _
  | some target =>
    simp only
    split
    next admitted =>
      exact block _ _ _ _ fun i j =>
        related _ (mem_precedentsOn_of_range hr ht admitted i j)
    next => exact error _

/-- A lawful content has the same value in workbooks that it sees alike, over values that are the
same at its precedents. -/
theorem contentOver_same_of_sees {content : Content} (lawful : content.Lawful w.registry)
    (clock : w.now = w'.now ∨ content.Stable w.registry)
    (alike : ∀ e, content = .formula e → SeesAlike w w' sheet e)
    (same : ∀ e, content = .formula e → ∀ d ∈ w.precedentsOn sheet e, (values d).Same (values' d)) :
    (w.contentOver values sheet content).Same (w'.contentOver values' sheet content) := by
  -- Only formulas look at cells.
  cases content with
  | literal s => exact .scalar lawful
  | invalid fault => exact .error _
  | formula e =>
    have alike := alike e rfl
    have same := same e rfl
    have lawful : e.Lawful (w.environmentOver values sheet).registry := lawful
    have clock : (w.environmentOver values sheet).now = (w'.environmentOver values' sheet).now ∨
        e.Stable (w.environmentOver values sheet).registry := clock
    refine e.evaluate_same lawful alike.find clock (fun a ha => ?_)
      (fun r hr => ?_) w.calls w'.calls
    · exact alike.cell .error same ha
    · exact alike.range .error (fun _ _ _ _ => .block) same hr

end

/-- A lawful content has the same value in workbooks that look alike to it, over values that are the
same at its precedents. -/
theorem contentOver_same {content : Content} {values values' : CellId → Value}
    (lawful : content.Lawful w.registry) (clock : w.now = w'.now ∨ content.Stable w.registry)
    (alike : ∀ e, content = .formula e → LooksAlike w w' sheet e)
    (same : ∀ e, content = .formula e → ∀ d ∈ w.precedentsOn sheet e, (values d).Same (values' d)) :
    (w.contentOver values sheet content).Same (w'.contentOver values' sheet content) :=
  contentOver_same_of_sees lawful clock (fun e he => (alike e he).seesAlike) same

/-- A lawful content has the same value in workbooks that look alike to it and have the same values
on record at its precedents. -/
theorem evaluated_same {content : Content} (lawful : content.Lawful w.registry)
    (clock : w.now = w'.now ∨ content.Stable w.registry)
    (alike : ∀ e, content = .formula e → LooksAlike w w' sheet e)
    (values : ∀ e, content = .formula e →
      ∀ d ∈ w.precedentsOn sheet e, (w.settledValue d).Same (w'.settledValue d)) :
    (w.evaluated sheet content).Same (w'.evaluated sheet content) := by
  rw [evaluated_eq, evaluated_eq]
  exact contentOver_same lawful clock alike values

/-- The error of a loop in the value of a content was in the value of one of its precedents. -/
theorem evaluated_contains_cycle {content : Content} (safe : content.CycleSafe w.registry)
    (h : (w.evaluated sheet content).Contains .cycle) :
    ∃ e, content = .formula e ∧ ∃ d ∈ w.precedentsOn sheet e,
    (w.settledValue d).Contains .cycle := by
  cases content with
  | literal s => exact absurd h Value.not_contains_scalar
  | invalid fault => exact absurd (Value.contains_error_iff.1 h) (by decide)
  | formula e =>
    have safe : e.CycleSafe (w.environmentOver w.settledValue sheet).registry := safe
    have h : (e.evaluate (w.environmentOver w.settledValue sheet) w.calls).1.Contains .cycle := h
    refine ⟨e, rfl, ?_⟩
    -- The error was in what a reference came to, and no other error that a reference comes to is
    -- this one.
    rcases Expr.evaluate_contains_cycle safe h with ⟨a, ha, hc⟩ | ⟨r, hr, hc⟩
    · rw [environmentOver_cell] at hc
      split at hc
      next d hd =>
        split at hc
        · exact absurd (Value.contains_error_iff.1 hc) (by decide)
        · exact ⟨d, mem_precedentsOn_of_cell ha hd, hc⟩
      next => exact absurd (Value.contains_error_iff.1 hc) (by decide)
    · rw [environmentOver_range] at hc
      split at hc
      next target ht =>
        split at hc
        next admitted =>
          cases hc with
          | entry i j hc => exact ⟨_, mem_precedentsOn_of_range hr ht admitted i j, hc⟩
        next => exact absurd (Value.contains_error_iff.1 hc) (by decide)
      next => exact absurd (Value.contains_error_iff.1 hc) (by decide)

end Workbook

end Spreadsheet
