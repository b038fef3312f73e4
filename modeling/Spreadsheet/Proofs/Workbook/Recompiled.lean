import Spreadsheet.Proofs.Workbook.Coherent

/-!
# `Proofs/Workbook/Recompiled.lean` — compiling cells again adds to what they read

A new sheet or a new function has the formulas that name it compiled again, one after the other, and
nothing else is compiled or typed meanwhile (`cell?_recompile`). What a formula reads depends on the
sheets that there are and on the configuration, not on the functions. As sheets are only ever put in
last, and configuration stays, whatever was found before is found again: compiled anew, each cell
would read what it reads, and perhaps more (`Coherent.outgrown`).

A workbook in that state is `Outgrown`. It stays outgrown while cells are compiled again
(`Outgrown.recompile`), in whatever order they come up, and so no reading is lost on the way
(`Outgrown.reads_foldl`). Two things rest on this: loops that are alone in the end were alone at
every step, and cells that two others read keep their readers throughout.
-/

set_option autoImplicit false

namespace Spreadsheet.Workbook

variable {w v : Workbook} {id x d : CellId} {c : Cell} {raw : String}

/-! ## One cell -/

theorem recompile_of_cell? (hc : w.cell? id = some c) : w.recompile id = w.writeCell id c.raw := by
  unfold recompile
  rw [hc]

/-- Nothing else is compiled again, and nothing else is typed. -/
theorem cell?_recompile (wired : w.Wired) (id x : CellId) :
    ((w.recompile id).cell? x = none ∧ w.cell? x = none) ∨
      ∃ c c', w.cell? x = some c ∧ (w.recompile id).cell? x = some c' ∧ c'.raw = c.raw ∧
        c'.compiled = if x = id then w.compile x.sheet c.raw else c.compiled := by
  -- Where there is no cell nothing is compiled; where there is one it is written with its own
  -- text.
  cases hc : w.cell? id with
  | none =>
    have same : w.recompile id = w := by
      unfold recompile
      rw [hc]
    rw [same]
    cases hx : w.cell? x with
    | none => exact .inl ⟨rfl, rfl⟩
    | some c =>
      have other : x ≠ id := by
        rintro rfl
        rw [hc] at hx
        cases hx
      exact .inr ⟨c, c, rfl, rfl, rfl, by rw [if_neg other]⟩
  | some c =>
    rw [recompile_of_cell? hc]
    by_cases hx : x = id
    · subst hx
      exact .inr ⟨c, _, hc, (cell?_writeCell_self wired x c.raw).1, rfl, by rw [if_pos rfl]⟩
    · simp only [if_neg hx]
      rcases (edited_writeCell wired id c.raw).cell x hx with same | ⟨c', hc', -, queued, -⟩
      · rw [same]
        cases hx : w.cell? x with
        | none => exact .inl ⟨rfl, rfl⟩
        | some c => exact .inr ⟨c, c, rfl, rfl, rfl, rfl⟩
      · exact .inr ⟨c', _, hc', queued, rfl, rfl⟩

/-- Sheets, functions and configuration are not touched. -/
theorem compile_recompile (wired : w.Wired) (id : CellId) :
    (w.recompile id).settings = w.settings ∧ (w.recompile id).registry = w.registry ∧
      (w.recompile id).sheets = w.sheets ∧ (w.recompile id).Wired := by
  unfold recompile
  cases w.cell? id with
  | none => exact ⟨rfl, rfl, rfl, wired⟩
  | some c =>
    have edited := edited_writeCell wired id c.raw
    exact ⟨edited.settings, edited.registry, edited.sheets, edited.wired⟩

/-! ## Cells that would read more -/

/-- If they were compiled again, the cells would read what they read now, and perhaps more. -/
def Outgrown (w : Workbook) : Prop :=
  ∀ x c, w.cell? x = some c → ∀ d ∈ c.compiled.precedents,
    d ∈ (w.compile x.sheet c.raw).precedents

theorem Outgrown.recompile (outgrown : w.Outgrown) (wired : w.Wired) (id : CellId) :
    (w.recompile id).Outgrown ∧ ∀ x d, w.Reads x d → (w.recompile id).Reads x d := by
  obtain ⟨settings, registry, sheets, -⟩ := compile_recompile wired id
  constructor
  · intro x c' hc' d hd
    rw [compile_congr settings registry sheets]
    rcases cell?_recompile wired id x with ⟨none, -⟩ | ⟨c, c'', hc, hc'', raw, compiled⟩
    · rw [hc'] at none
      cases none
    · rw [hc'] at hc''
      cases hc''
      rw [raw]
      rw [compiled] at hd
      split at hd
      · exact hd
      · exact outgrown x c hc d hd
  -- What was read is still read: by the others as before, by the cell itself because it would
  -- read no less.
  · intro x d reads
    rcases cell?_recompile wired id x with ⟨-, none⟩ | ⟨c, c', hc, hc', -, compiled⟩
    · obtain ⟨c, hc⟩ := reads.cell?
      rw [hc] at none
      cases none
    · rw [reads_of_cell? hc', compiled]
      rw [reads_of_cell? hc] at reads
      split
      · exact outgrown x c hc d reads
      · exact reads

/-- However many cells are compiled again, all go on reading what they read. -/
theorem Outgrown.reads_foldl (ids : List CellId) (outgrown : w.Outgrown) (wired : w.Wired)
    (reads : w.Reads x d) : (ids.foldl Workbook.recompile w).Reads x d := by
  induction ids generalizing w with
  | nil => exact reads
  | cons id ids ih =>
    obtain ⟨outgrown', keeps⟩ := outgrown.recompile wired id
    exact ih outgrown' (compile_recompile wired id).2.2.2 (keeps x d reads)

/-! ## New sheets -/

/-- A sheet that there is keeps its number when one is put in last. -/
theorem sheetOf?_of_append {name : String} (sheets : v.sheets = w.sheets ++ [name]) (sheet : Nat)
    (named : Option String) (target : Nat) (found : w.sheetOf? sheet named = some target) :
    v.sheetOf? sheet named = some target := by
  cases named with
  | none => exact found
  | some n =>
    have found : w.sheetNamed? n = some target := found
    show v.sheetNamed? n = some target
    unfold sheetNamed? at found ⊢
    rw [sheets, List.findIdx?_append, found]
    rfl

/-- Where every sheet is found that was found before, a reference covers what it covered. -/
theorem mem_covered_of_sheets (settings : v.settings = w.settings)
    (sheets : ∀ sheet name target,
      w.sheetOf? sheet name = some target → v.sheetOf? sheet name = some target)
    {sheet : Nat} {r : Reference} (hd : d ∈ w.covered sheet r) : d ∈ v.covered sheet r := by
  cases r with
  | cell a =>
    simp only [Workbook.covered, resolve?, Option.mem_toList, Option.map_eq_some_iff] at hd ⊢
    obtain ⟨target, found, rfl⟩ := hd
    exact ⟨target, sheets _ _ _ found, rfl⟩
  | range r =>
    simp only [Workbook.covered] at hd ⊢
    cases found : w.sheetOf? sheet r.sheet with
    | none =>
      rw [found] at hd
      cases hd
    | some target =>
      rw [found] at hd
      rw [sheets _ _ _ found, settings]
      exact hd

/-- So a formula reads there what it read before. -/
theorem mem_precedents_of_sheets (settings : v.settings = w.settings)
    (sheets : ∀ sheet name target,
      w.sheetOf? sheet name = some target → v.sheetOf? sheet name = some target)
    {sheet : Nat} (hd : d ∈ (w.compile sheet raw).precedents) :
    d ∈ (v.compile sheet raw).precedents := by
  unfold compile at hd ⊢
  -- Only a formula that can be read has precedents.
  cases input : Input.classify raw with
  | literal s =>
    rw [input] at hd
    exact hd
  | formula source =>
    rw [input] at hd
    dsimp only at hd ⊢
    cases parsed : Formula.parse source with
    | error fault =>
      rw [parsed] at hd
      exact hd
    | ok e =>
      rw [parsed] at hd
      simp only [precedentsOn, Std.ExtTreeSet.mem_ofList, List.contains_iff_mem,
        List.mem_flatMap] at hd ⊢
      obtain ⟨r, hr, hd⟩ := hd
      exact ⟨r, hr, mem_covered_of_sheets settings sheets hd⟩

theorem Coherent.outgrown (coherent : w.Coherent) (slots : v.slots = w.slots)
    (settings : v.settings = w.settings)
    (sheets : ∀ sheet name target,
      w.sheetOf? sheet name = some target → v.sheetOf? sheet name = some target) :
    v.Outgrown := by
  intro x c hc d hd
  rw [cell?_of_slots slots] at hc
  rw [(coherent.sound x (by simp)).compiled c hc] at hd
  exact mem_precedents_of_sheets settings sheets hd

end Spreadsheet.Workbook
