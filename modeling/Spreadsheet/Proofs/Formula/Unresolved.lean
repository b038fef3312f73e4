import Spreadsheet.Proofs.Formula.Acceptance
import Spreadsheet.Proofs.Formula.Canonical
import Spreadsheet.Proofs.Formula.Pieces

/-!
# `Proofs/Formula/Unresolved.lean` — references that name nothing

Three things say what is a reference: the tokenizer by the looks of a text, the readers of
addresses and ranges, and evaluation, which looks at a bare name once more. A token that looks
like a reference and is none becomes a bare name (`BecomesName`), and evaluation takes the looks of
its text for those of a cell that does not exist.

What is looked at then is the part behind the last exclamation mark. For a cell that is the part
that made a cell of it. For a range it is the second corner if that one names a sheet, and else it
has the colon in it and looks like no cell. So of the ranges that name nothing only the former
come to an invalid reference (`unresolved_references`).
-/

set_option autoImplicit false

namespace Spreadsheet

/-! ## Leaves of derivations -/

/-- A word that is a tree on its own is found in the tree that its derivation spells. -/
theorem Formula.Derivation.mem_parts {w : Word} {e : Expr} (spells : w.tree? = some e)
    {n : Nonterminal} (d : Derivation n) (hw : w ∈ d.yield) :
    match n, d with
    | .expression _, d | .signed, d | .primary, d => e ∈ d.tree.parts
    | .call, d | .arguments, d => e ∈ Expr.partsEach d.tree := by
  -- The words that rules add of their own are no trees.
  have other : ∀ own : Word, own.tree? = none → w ≠ own := by
    rintro own none rfl
    cases spells.symm.trans none
  induction d with
  | operation op _ lhs rhs ih ih' =>
    simp only [yield, List.mem_append, List.mem_singleton, other (Word.plain (.operator op)) rfl,
      or_false] at hw
    simp only [tree, Expr.parts, List.mem_cons, List.mem_append]
    exact .inr (hw.imp ih ih')
  | tighter _ d ih | operand d ih | unsigned d ih | someArguments args ih => exact ih hw
  | sign s d ih =>
    have notSign : w ≠ Word.ofSign s := other _ (by cases s <;> rfl)
    simp only [yield, List.cons_append, List.nil_append, List.mem_cons, notSign, false_or] at hw
    simp only [tree, Expr.parts, List.mem_cons]
    exact .inr (ih hw)
  | atom w' e' spells' =>
    cases List.mem_singleton.1 hw
    cases spells.symm.trans spells'
    exact e.self_mem_parts
  | parentheses d ih =>
    simp only [yield, List.mem_append, List.mem_singleton, other (Word.plain .leftParen) rfl,
      other (Word.plain .rightParen) rfl, false_or, or_false] at hw
    exact ih hw
  | call name args ih =>
    simp only [yield, List.mem_append, List.mem_cons, List.not_mem_nil, other ⟨.function, name⟩ rfl,
      other (Word.plain .leftParen) rfl, other (Word.plain .rightParen) rfl, false_or,
      or_false] at hw
    simp only [tree, Expr.parts, List.mem_cons]
    exact .inr (ih hw)
  | noArguments => cases hw
  | lastArgument d ih =>
    simp only [tree, Expr.partsEach, List.append_nil]
    exact ih hw
  | moreArguments d more ih ih' =>
    simp only [yield, List.mem_append, List.mem_singleton, other (Word.plain .comma) rfl,
      or_false] at hw
    simp only [tree, Expr.partsEach, List.mem_append]
    exact hw.imp ih ih'

/-- Whatever token is a tree on its own is part of the tree that the whole text spells. -/
theorem Formula.mem_parts_of_parse {source : String} {tokens : List Token} {t : Token}
    {leaf e : Expr} (scanned : Token.scan (body source) = .ok tokens) (ht : t ∈ tokens)
    (spells : t.word.tree? = some leaf) (parsed : parse source = .ok e) : leaf ∈ e.parts := by
  obtain ⟨front, last, rfl, ends, others⟩ := Token.scan_ends scanned
  rw [parse, scanned] at parsed
  obtain ⟨d, yield, rfl⟩ := (ofTokens_eq_ok_iff_derived ends others).1 parsed
  refine d.mem_parts spells (yield ▸ List.mem_map_of_mem ?_)
  rcases List.mem_append.1 ht with ht | ht
  · exact ht
  · cases List.mem_singleton.1 ht
    rw [word_of_kind ends rfl] at spells
    cases spells

/-! ## The looks of names -/

namespace Token

variable {first last : List Char}

/-- What is put in front of a text with an exclamation mark in it does not go into its last part. -/
theorem localPart_append_of_mark (marked : '!' ∈ last) (s : List Char) :
    localPart (s ++ last) = localPart last := by
  have broken : (last.reverse.takeWhile (· != '!')).length ≠ last.reverse.length := by
    intro whole
    have all : last.reverse.takeWhile (· != '!') = last.reverse :=
      (List.takeWhile_prefix _).eq_of_length whole
    have other := List.mem_takeWhile_imp (all.symm ▸ List.mem_reverse.2 marked)
    simp at other
  unfold localPart
  rw [List.reverse_append, List.takeWhile_append, if_neg broken]

/-- Whatever looks like a cell consists of letters and digits and dollar signs behind its sheet. -/
theorem notMem_localPart_of_isCellShaped {s : List Char} {c : Char} (shaped : isCellShaped s = true)
    (other : c.isAlpha = false ∧ c.isDigit = false ∧ c ≠ '$') : c ∉ localPart s := by
  have undollar : ∀ {s : List Char}, c ∈ s → c ∈ dropDollar s := by
    intro s hc
    rw [dropDollar.eq_def]
    split
    next rest => exact (List.mem_cons.1 hc).resolve_left other.2.2
    next => exact hc
  intro hc
  unfold isCellShaped at shaped
  rw [List.span_eq_takeWhile_dropWhile] at shaped
  simp only [Bool.and_eq_true, List.all_eq_true] at shaped
  -- A dollar sign apart there are letters and then digits, and the character is neither.
  have cut := List.takeWhile_append_dropWhile (p := Char.isAlpha) (l := dropDollar (localPart s))
  rcases List.mem_append.1 (cut.symm ▸ undollar hc) with letter | rest
  · have alpha := List.mem_takeWhile_imp letter
    rw [other.1] at alpha
    cases alpha
  · have digit := shaped.2 c (undollar rest)
    rw [other.2.1] at digit
    cases digit

/-- A text is two things that look like cells, with a colon between them. -/
structure IsCorners (text first last : List Char) : Prop where
  joined : text = first ++ [':'] ++ last
  first : isCellShaped first = true
  last : isCellShaped last = true

/-- Two cells with a colon between look like a cell if the second one names a sheet. -/
theorem IsCorners.isCellShaped {text : List Char} (corners : IsCorners text first last) :
    isCellShaped text = decide ('!' ∈ last) := by
  obtain ⟨rfl, -, shaped⟩ := corners
  by_cases marked : '!' ∈ last
  · rw [decide_eq_true marked, ← shaped]
    unfold Token.isCellShaped
    rw [localPart_append_of_mark marked]
  · rw [decide_eq_false marked, Bool.eq_false_iff]
    intro whole
    refine notMem_localPart_of_isCellShaped (c := ':') whole (by decide) ?_
    rw [localPart_append marked, localPart_append (by decide)]
    simp

end Token

/-! ## References that name nothing -/

namespace Formula

/-- A token of a formula becomes a bare name, and that comes to a value. -/
structure BecomesName (source : String) (t : Token) (v : Value) : Prop where
  /-- Whatever stands behind the token, the parser takes it alone and makes a name of its text. -/
  read : ∀ rest, ∃ fewer, primary (t :: rest) = .ok (.name t.text, ⟨rest, fewer⟩)
  /-- The name is in the tree of the formula, if it has one. -/
  part : ∀ e, parse source = .ok e → .name t.text ∈ e.parts
  value : ∀ env calls, (Expr.name t.text).eval env calls = (v, calls)

theorem becomesName {source : String} {tokens : List Token} {t : Token}
    (scanned : Token.scan (body source) = .ok tokens) (ht : t ∈ tokens)
    (spells : t.word.tree? = some (.name t.text)) :
    BecomesName source t (Expr.ofName t.text) where
  read := primary_of_tree? spells
  part _ := mem_parts_of_parse scanned ht spells
  value _ _ := rfl

/-- **A cell that does not exist is an invalid reference, a range only if its second corner names
a sheet.** A token that looks like a cell or a range and cannot be read as one becomes a bare
name. For a cell that comes to an invalid reference. For a range it does so if there is an
exclamation mark in its second corner, and else it comes to an unknown name, as any other name
does. -/
theorem unresolved_references {source : String} {tokens : List Token} {t : Token}
    (scanned : Token.scan (body source) = .ok tokens) (ht : t ∈ tokens) :
    (t.kind = .cell → Address.ofText? t.text = none → BecomesName source t (.error .badReference)) ∧
      (t.kind = .range → Range.ofText? t.text = none →
          (∃ first last, Token.IsCorners t.text.toList first last) ∧
        ∀ first last, Token.IsCorners t.text.toList first last →
          BecomesName source t (.error (if '!' ∈ last then .badReference else .unknownName))) ∧
      (t.kind = .name → BecomesName source t (.error .unknownName)) := by
  have fits := (Token.scanFrom_eq_ok_iff.1 scanned).fits ht
  -- The name that the token becomes is looked at once more: by its text, not by its kind.
  have becomes (spells : t.word.tree? = some (.name t.text)) := becomesName scanned ht spells
  unfold Expr.ofName at becomes
  refine ⟨fun cell none => ?_, fun range none => ⟨?_, fun first last corners => ?_⟩, fun name => ?_⟩
  · rw [cell] at fits
    have shaped : Token.isCellShaped t.text.toList = true := fits
    rw [if_pos shaped] at becomes
    exact becomes (by simp [Word.tree?, Token.word, Token.Kind.keepsText, cell, ofCellText, none])
  · rw [range] at fits
    obtain ⟨first, last, joined, shaped, shaped'⟩ := fits
    exact ⟨first, last, joined, shaped, shaped'⟩
  -- The text of a range has the shape of a cell just if the part behind the last mark has.
  · have spells : t.word.tree? = some (.name t.text) := by
      simp [Word.tree?, Token.word, Token.Kind.keepsText, range, ofRangeText, none]
    simpa [corners.isCellShaped, apply_ite] using becomes spells
  · rw [name] at fits
    have shapeless : Token.isCellShaped t.text.toList = false := fits
    rw [shapeless] at becomes
    exact becomes (by simp [Word.tree?, Token.word, Token.Kind.keepsText, name])

/-- A row too low, two sheets at once, a row too high, and a name, one behind the other. -/
theorem unresolved_references_of_sum :
    let source := "=A0+Data!A1:'é''s'!B2+A1:$B$1048577+rate"
    let tokens : List Token :=
      [⟨.cell, "A0", 0⟩, ⟨.operator .add, "+", 2⟩, ⟨.range, "Data!A1:'é''s'!B2", 3⟩,
      ⟨.operator .add, "+", 21⟩, ⟨.range, "A1:$B$1048577", 22⟩, ⟨.operator .add, "+", 35⟩,
      ⟨.name, "rate", 36⟩,
      ⟨.eof, "", 40⟩]
    Token.scan (body source) = .ok tokens ∧
    BecomesName source ⟨.cell, "A0", 0⟩ (.error .badReference) ∧
      BecomesName source ⟨.range, "Data!A1:'é''s'!B2", 3⟩ (.error .badReference) ∧
      BecomesName source ⟨.range, "A1:$B$1048577", 22⟩ (.error .unknownName) ∧
      BecomesName source ⟨.name, "rate", 36⟩ (.error .unknownName) := by
  intro source tokens
  have scanned : Token.scan (body source) = .ok tokens := by decide +kernel
  have resolves {t : Token} (ht : t ∈ tokens) := unresolved_references scanned ht
  have sheets := (resolves (t := ⟨.range, "Data!A1:'é''s'!B2", 3⟩) (by simp [tokens])).2.1 rfl
    (by decide +kernel)
  have rows :=
    (resolves (t := ⟨.range, "A1:$B$1048577", 22⟩) (by simp [tokens])).2.1 rfl (by decide +kernel)
  exact ⟨scanned, (resolves (by simp [tokens])).1 rfl (by decide +kernel),
    sheets.2 "Data!A1".toList "'é''s'!B2".toList ⟨by decide, by decide, by decide⟩,
    rows.2 "A1".toList "$B$1048577".toList ⟨by decide, by decide, by decide⟩,
    (resolves (by simp [tokens])).2.2 rfl⟩

/-- The row that makes a cell an invalid reference makes a range an unknown name. -/
theorem unresolved_range_is_unknown :
    Token.scan (body "=A0:B2") = .ok [⟨.range, "A0:B2", 0⟩, ⟨.eof, "", 5⟩] ∧
      Range.ofText? "A0:B2" = none ∧
      parse "=A0:B2" = .ok (.name "A0:B2") ∧ parse "=A0" = .ok (.name "A0") ∧ ∀ env calls,
        (Expr.name "A0:B2").evaluate env calls = (.error .unknownName, calls) ∧
        (Expr.name "A0").evaluate env calls = (.error .badReference, calls) := by
  exact ⟨by decide +kernel, by decide +kernel, by cbv, by cbv, fun env calls => ⟨rfl, rfl⟩⟩

end Formula

end Spreadsheet
