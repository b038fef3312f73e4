import Spreadsheet.Proofs.Formula.Canonical

/-!
# `Proofs/Formula/RoundTrip.lean` — what is printed is read back

The printer writes few parentheses, and the grammar puts the same ones in again. That is an
induction over trees, and what it says of a tree goes beyond what the tree spells on its own: a
chain of operators of one level can be gone on with, and then it is the left operand of what
follows (`Joins`). A text in parentheses joins at any level, and each operand is in parentheses
that does not join where it stands (`printing_reads_back`).

How numbers are written is not looked into. Where a literal stands in a tree, its digits are asked
to read back.
-/

set_option autoImplicit false

namespace Spreadsheet

namespace Formula

variable {j k : Nat} {e lhs rhs : Expr} {s t : List Char} {args : List Expr}

/-! ## Texts that are spelled -/

/-- A text falls into words that join. -/
def Spelled (s : List Char) (k : Nat) (e : Expr) : Prop := ∃ ws, Token.Chunk s ws ∧ Joins k ws e

theorem Spelled.parentheses (spelled : Spelled s 0 e) :
    Spelled (['('] ++ s ++ [')']) Operator.levels e := by
  obtain ⟨ws, chunk, joins⟩ := spelled
  have closed : ∀ z, Token.Boundary ([')'] ++ z) := by
    intro z c hc
    cases hc
    decide
  refine ⟨_, ?_, joins.parentheses⟩
  rw [List.append_assoc, List.append_assoc]
  exact (Token.sealed_leftParen.append (chunk.append_sealed Token.sealed_rightParen closed)).chunk

/-- An operand joins at a level if it does so by itself or is in parentheses. -/
theorem Spelled.parenthesize {needed : Bool} (spelled : Spelled s j e)
    (bare : needed = false → k ≤ j) (le : k ≤ Operator.levels) :
    Spelled (Expr.parenthesize needed s) k e := by
  obtain ⟨ws, chunk, joins⟩ := spelled
  cases needed with
  | false => exact ⟨ws, chunk, joins.mono (bare rfl)⟩
  | true =>
    obtain ⟨ws', chunk', joins'⟩ := Spelled.parentheses ⟨ws, chunk, joins.mono (Nat.zero_le j)⟩
    exact ⟨ws', chunk', joins'.mono le⟩

theorem Spelled.sign {sign : Sign} (spelled : Spelled s Operator.levels e) :
    Spelled (sign.symbol.toList ++ s) Operator.levels (.unary sign e) := by
  obtain ⟨ws, chunk, joins⟩ := spelled
  exact ⟨_, (Token.sealed_sign sign).append_chunk chunk, joins.sign⟩

theorem Spelled.operator {op : Operator} (left : Spelled s op.level lhs)
    (right : Spelled t (op.level + 1) rhs) :
    Spelled (s ++ Expr.writeOperator op ++ t) op.level (.binary op lhs rhs) := by
  obtain ⟨ws, chunk, joins⟩ := left
  obtain ⟨vs, chunk', joins'⟩ := right
  have front := chunk.append_sealed (Token.sealed_operator op) (Token.boundary_operator op)
  exact ⟨_, front.append_chunk chunk', joins.operator joins'⟩

/-- Arguments with the parenthesis behind them. -/
theorem spelled_arguments (nonempty : args ≠ []) (spelled : ∀ arg ∈ args, Spelled arg.write 0 arg) :
    ∃ ws, Token.Sealed (Expr.writeArgs args ++ [')']) ws ∧ ∀ more,
    Reads .arguments (ws ++ more) args more := by
  induction args with
  | nil => exact absurd rfl nonempty
  | cons arg args ih =>
    obtain ⟨ws, chunk, joins⟩ := spelled arg (by simp)
    cases args with
    | nil =>
      -- The parenthesis, like the comma below, can stand behind any operand.
      have closed : ∀ z, Token.Boundary ([')'] ++ z) := by
        intro z c hc
        cases hc
        decide
      refine ⟨ws ++ [Word.plain .rightParen], chunk.append_sealed Token.sealed_rightParen closed,
        fun more => .last ?_⟩
      rw [List.append_assoc]
      exact joins.level follows_rightParen
    | cons arg' args =>
      obtain ⟨vs, rest, reads⟩ :=
        ih (List.cons_ne_nil _ _) fun a ha => spelled a (List.mem_cons_of_mem _ ha)
      have comma : ∀ z, Token.Boundary ([',', ' '] ++ z) := by
        intro z c hc
        cases hc
        decide
      refine ⟨ws ++ [Word.plain .comma] ++ vs, ?_, fun more => ?_⟩
      · have written : Expr.writeArgs (arg :: arg' :: args) = arg.write ++ [',', ' '] ++
          Expr.writeArgs (arg' :: args) := by
          simp [Expr.writeArgs]
        rw [written, List.append_assoc]
        exact (chunk.append_sealed Token.sealed_comma comma).append rest
      · rw [List.append_assoc, List.append_assoc]
        exact .next (joins.level follows_comma) (reads more)

theorem spelled_call {n : String} (called : Token.IsCallName n)
    (spelled : ∀ arg ∈ args, Spelled arg.write 0 arg) :
    Spelled (Expr.call n args).write Operator.levels (.call n args) := by
  obtain ⟨c, u, text, start, name⟩ := Token.isFunctionName_of_isCallName called
  have opened := Token.sealed_function name start
  rw [← text, String.ofList_toList] at opened
  rw [Expr.write, called.1, List.append_assoc]
  have spells : ∀ {ws more}, Reads .call (ws ++ more) args more →
      Reads .signed ([⟨.function, n⟩, Word.plain .leftParen] ++ ws ++ more)
      [.call n args] more := by
    intro ws more reads
    have reads : Reads .signed _ _ _ := .unsigned (.call (s := n) reads)
    rwa [called.1] at reads
  -- Without arguments the parenthesis closes at once, and the grammar has a rule of its own for
  -- it.
  by_cases none : args = []
  · subst none
    exact ⟨_, (opened.append Token.sealed_rightParen).chunk,
      joins_signed.2 fun more => spells .noArguments⟩
  · obtain ⟨ws, closed, reads⟩ := spelled_arguments none spelled
    exact ⟨_, (opened.append closed).chunk,
      joins_signed.2 fun more => spells (.someArguments (reads more))⟩

/-! ## Trees -/

/-- What is asked of a part of a tree that is printed. -/
def Printable (part : Expr) : Prop :=
  part.CanonicalPart ∧ ∀ x, part = .number x → Decimal.ReadsBack x

end Formula

namespace Expr

/-- The number that a part of a tree stands for by itself. -/
def literal? : Expr → Option Float
  | .number x => some x
  | .text _ | .bool _ | .cell _ | .range _ | .name _ | .unary _ _ | .binary _ _ _ | .call _ _ =>
    none

/-- The numbers in a tree. -/
def literals (e : Expr) : List Float := e.parts.filterMap literal?

theorem mem_literals {e : Expr} {x : Float} : x ∈ e.literals ↔ .number x ∈ e.parts := by
  rw [literals, List.mem_filterMap]
  constructor
  · rintro ⟨part, hp, found⟩
    cases part <;> cases found
    exact hp
  · exact fun hx => ⟨_, hx, rfl⟩

/-- How tightly a tree binds as it is printed. -/
def tightness : Expr → Nat
  | .binary op _ _ => op.level
  | _ => Operator.levels

theorem le_tightness_left {k : Nat} (le : k ≤ Operator.levels) {e : Expr}
    (bare : e.needsParensLeft k = false) :
    k ≤ e.tightness := by
  cases e with
  | binary op => simpa [needsParensLeft, tightness] using bare
  | _ => exact le

theorem lt_tightness_right {k : Nat} (lt : k < Operator.levels) {e : Expr}
    (bare : e.needsParensRight k = false) :
    k < e.tightness := by
  cases e with
  | binary op => simpa [needsParensRight, tightness] using bare
  | _ => exact lt

theorem levels_le_tightness {e : Expr} (bare : e.needsParensSigned = false) :
    Operator.levels ≤ e.tightness := by
  cases e with
  | binary => cases bare
  | _ => exact Nat.le_refl _

end Expr

namespace Formula

mutual

/-- A canonical tree is printed as a text that spells it. -/
theorem spelled_write :
    ∀ e : Expr, (∀ part ∈ e.parts, Printable part) → Spelled e.write e.tightness e
  | .number x, h => by
    obtain ⟨⟨finite, positive, -⟩, reads⟩ := h (.number x) (Expr.self_mem_parts _)
    have written : (Expr.number x).write = (Decimal.text x).toList := if_neg positive
    rw [written]
    exact ⟨_, Token.chunk_number finite (reads x rfl), joins_of_tree? rfl⟩
  | .text s, _ => by
    have chunk := Token.chunk_text s.toList
    rw [String.ofList_toList] at chunk
    exact ⟨_, chunk, joins_of_tree? rfl⟩
  | .bool b, _ => ⟨_, Token.chunk_bool b, joins_of_tree? rfl⟩
  | .cell a, h => by
    have inBounds : a.InBounds := (h (.cell a) (Expr.self_mem_parts _)).1
    have read := Address.ofText?_text inBounds
    exact ⟨_, Token.chunk_address a, joins_of_tree? (by simp [Word.tree?, ofCellText, read])⟩
  | .range r, h => by
    obtain ⟨normalized, inBounds⟩ := (h (.range r) (Expr.self_mem_parts _)).1
    have read := Range.ofText?_text normalized inBounds
    exact ⟨_, Token.chunk_range normalized,
      joins_of_tree? (by simp [Word.tree?, ofRangeText, read])⟩
  | .name s, h => by
    obtain ⟨c, u, kind, text, start, taken, keeps, spells⟩ :=
      Token.taken_of_isBareName (h (.name s) (Expr.self_mem_parts _)).1
    have chunk := Token.chunk_taken taken start
    rw [← text, String.ofList_toList, Token.word, if_pos keeps] at chunk
    exact ⟨_, chunk, joins_of_tree? spells⟩
  | .unary sign operand, h => by
    have operand := spelled_write operand fun part hp => h part (by simp [Expr.parts, hp])
    -- Below a sign only what binds tightest goes without parentheses.
    exact (operand.parenthesize Expr.levels_le_tightness (Nat.le_refl _)).sign
  | .binary op lhs rhs, h => by
    have lhs := spelled_write lhs fun part hp => h part (by simp [Expr.parts, hp])
    have rhs := spelled_write rhs fun part hp => h part (by simp [Expr.parts, hp])
    -- The left operand may be of the same level, the right one has to bind tighter.
    have loose := op.level_lt_levels
    exact (lhs.parenthesize (Expr.le_tightness_left (Nat.le_of_lt loose))
      (Nat.le_of_lt loose)).operator
      (rhs.parenthesize (Expr.lt_tightness_right loose) loose)
  | .call n args, h => by
    refine spelled_call (h (.call n args) (Expr.self_mem_parts _)).1 ?_
    exact spelled_writeEach args fun part hp => h part (by simp [Expr.parts, hp])

theorem spelled_writeEach : ∀ args : List Expr, (∀ part ∈ Expr.partsEach args, Printable part) →
    ∀ arg ∈ args, Spelled arg.write 0 arg
  | [], _ => nofun
  | e :: more, h => by
    intro arg ha
    rcases List.mem_cons.1 ha with equal | ha
    · rw [equal]
      obtain ⟨ws, chunk, joins⟩ :=
        spelled_write e fun part hp => h part (by simp [Expr.partsEach, hp])
      exact ⟨ws, chunk, joins.mono (Nat.zero_le _)⟩
    · exact spelled_writeEach more (fun part hp => h part (by simp [Expr.partsEach, hp])) arg ha

end

/-- What is printed of a canonical tree is read back as that tree. -/
theorem parse_print {e : Expr} (canonical : e.Canonical)
    (reads : ∀ x ∈ e.literals, Decimal.ReadsBack x) :
    parse e.print = .ok e := by
  obtain ⟨ws, chunk, joins⟩ := spelled_write e fun part hp =>
    ⟨canonical part hp, fun x hx => reads x (Expr.mem_literals.2 (hx ▸ hp))⟩
  have scans := chunk [] [Word.plain .eof] (by nofun) (fun _ => Token.scans_nil.2 rfl) 0
  have spells : Reads (.level 0) (ws ++ [Word.plain .eof]) [e] _ :=
    (joins.mono (Nat.zero_le _)).level follows_eof
  rw [List.append_nil] at scans
  -- An equals sign in front would be taken off. No expression starts with one.
  have plain : e.print.toList.head? ≠ some '=' := by
    intro equals
    obtain ⟨s, start⟩ := List.head?_eq_some_iff.1 equals
    rw [Expr.print, String.toList_ofList] at start
    exact not_spells_equals (start ▸ scans) (.inr ⟨[], spells⟩)
  rw [parse_eq_ok_iff, body_eq_self plain, Expr.print, String.toList_ofList]
  exact ⟨_, scans, .inr ⟨[], spells⟩⟩

/-- The text of an address is a formula, a reference to the cell. -/
theorem parse_cell {a : Address} (inBounds : a.InBounds) : parse a.text = .ok (.cell a) := by
  have parts : (Expr.cell a).parts = [.cell a] := rfl
  have canonical : (Expr.cell a).Canonical := by
    intro part hp
    rw [parts, List.mem_singleton] at hp
    rw [hp]
    exact inBounds
  have written : (Expr.cell a).print = a.text := by rw [Expr.print, Expr.write, Address.text]
  rw [← written]
  refine parse_print canonical fun x hx => ?_
  rw [Expr.mem_literals, parts, List.mem_singleton] at hx
  cases hx

/-- **Printing then parsing is the identity on formulas.** Trees that are parsed are canonical,
and a canonical tree is what its print spells, as far as its numbers are written as digits that
spell them. So the normal form of a formula means the same as the formula, and is its own normal
form. -/
theorem printing_reads_back :
    (∀ source e, parse source = .ok e → e.Canonical) ∧
      (∀ e : Expr, e.Canonical → (∀ x ∈ e.literals, Decimal.ReadsBack x) → parse e.print = .ok e) ∧
      ∀ source e, parse source = .ok e → (∀ x ∈ e.literals, Decimal.ReadsBack x) →
        ∃ text, normalize source = .ok text ∧ parse text = parse source ∧
        normalize text = .ok text := by
  refine ⟨fun _ _ => canonical_of_parse, fun _ => parse_print, fun source e parsed reads => ?_⟩
  have again := parse_print (canonical_of_parse parsed) reads
  refine ⟨e.print, ?_, ?_, ?_⟩
  · rw [normalize, parsed]
    rfl
  · rw [again, parsed]
  · rw [normalize, again]
    rfl

/-- A formula with a sheet in quotes, anchors, doubled quotes and signs keeps one of three pairs
of parentheses. -/
theorem printing_reads_back_of_call :
    ∃ e text, parse "= sum('it''s'!b2:$A$1, -1.5, (\"a\"\"b\"))&(x^-2-(y-ab1))" = .ok e ∧
      e.Canonical ∧
      parse e.print = .ok e ∧
      normalize "= sum('it''s'!b2:$A$1, -1.5, (\"a\"\"b\"))&(x^-2-(y-ab1))" = .ok text ∧
      parse text = .ok e ∧
      normalize text = .ok text ∧ text = "SUM('it''s'!$A$1:B2, -1.5, \"a\"\"b\")&x^-2-(y-AB1)" := by
  let source := "= sum('it''s'!b2:$A$1, -1.5, (\"a\"\"b\"))&(x^-2-(y-ab1))"
  have printed : normalize source = .ok "SUM('it''s'!$A$1:B2, -1.5, \"a\"\"b\")&x^-2-(y-AB1)" := by
    decide +kernel
  have literals : ((parse source).toOption.any fun e => e.literals.all fun x =>
    decide (Decimal.ReadsBack x)) = true := by
    decide +kernel
  cases parsed : parse source with
  | error fault =>
    rw [parsed] at literals
    cases literals
  | ok e =>
    rw [parsed, Except.toOption, Option.any_some, List.all_eq_true] at literals
    have back : ∀ x ∈ e.literals, Decimal.ReadsBack x :=
      fun x hx => of_decide_eq_true (literals x hx)
    obtain ⟨canonical, reads, normal⟩ := printing_reads_back
    obtain ⟨text, normalized, again, stable⟩ := normal source e parsed back
    have canonical := canonical source e parsed
    refine ⟨e, text, rfl, canonical, reads e canonical back, normalized, again.trans parsed,
      stable, ?_⟩
    rw [normalized] at printed
    exact Except.ok.inj printed

end Formula

end Spreadsheet
