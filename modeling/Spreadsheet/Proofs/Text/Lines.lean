import Mathlib.Data.List.Forall2
import Spreadsheet.Proofs.Text.Run
import Spreadsheet.Text.Split

/-!
# `Proofs/Text/Lines.lean` — lines

A line ends with a line feed, or with a carriage return and a line feed. The pieces between line
feeds are the lines, except that a piece keeps the carriage return and that there is an empty
piece behind the last line feed (`pieces_lines`): a reader that trims what it reads and finds
nothing in what is empty does not see the difference.

The recursion that finds the lines looks at up to two characters, and what is proved of lines is
proved by its cases. Cutting a line at its first colon, as entries of a file are cut, is described
here as well (`cut?_eq_some_iff`).
-/

set_option autoImplicit false

namespace Spreadsheet.Text

/-- The lines of a text. What stands behind the last line feed is a line if it is not empty; a
carriage return that no line feed follows ends no line. -/
def lines : List Char → List (List Char)
  | [] => []
  | '\n' :: rest => [] :: lines rest
  | '\r' :: '\n' :: rest => [] :: lines rest
  | c :: rest =>
    match lines rest with
    | [] => [[c]]
    | line :: more => (c :: line) :: more

theorem lines_eq_nil_iff {s : List Char} : lines s = [] ↔ s = [] := by
  fun_cases lines s <;> simp_all

/-- A text without the separator is one piece. -/
theorem pieces_of_not_mem {separator : Char} {s : List Char} (h : separator ∉ s) :
    pieces separator s = [s] := by
  induction s with
  | nil => rfl
  | cons c s ih =>
    obtain ⟨other, rest⟩ := not_or.1 (mt List.mem_cons.2 h)
    rw [pieces, if_neg (Ne.symm other), ih rest]

theorem pieces_append {separator : Char} {first z : List Char} (h : separator ∉ first) :
    pieces separator (first ++ separator :: z) = first :: pieces separator z := by
  induction first with
  | nil => exact if_pos rfl
  | cons c first ih =>
    obtain ⟨other, rest⟩ := not_or.1 (mt List.mem_cons.2 h)
    rw [List.cons_append, pieces, if_neg (Ne.symm other), ih rest]

/-- What pieces are joined to falls into them again. -/
theorem pieces_join {separator : Char} {first : List Char} {more : List (List Char)}
    (h : ∀ piece ∈ first :: more, separator ∉ piece) :
    pieces separator (first ++ more.flatMap (separator :: ·)) = first :: more := by
  obtain ⟨none, rest⟩ := List.forall_mem_cons.1 h
  induction more generalizing first with
  | nil =>
    rw [List.flatMap_nil, List.append_nil]
    exact pieces_of_not_mem none
  | cons piece more ih =>
    rw [List.flatMap_cons, List.cons_append, pieces_append none,
      ih rest (List.forall_mem_cons.1 rest).1 (List.forall_mem_cons.1 rest).2]

/-- A text is what its pieces are joined to, and there is no separator in any of them. -/
theorem join_pieces (separator : Char) (s : List Char) :
    ∃ first more, pieces separator s = first :: more ∧
    s = first ++ more.flatMap (separator :: ·) ∧ ∀ piece ∈ first :: more, separator ∉ piece := by
  induction s with
  | nil => exact ⟨[], [], rfl, rfl, by simp⟩
  | cons c s ih =>
    obtain ⟨first, more, pieces_eq, joined, none⟩ := ih
    -- A separator ends a piece, and an empty one begins; another character goes on with the first
    -- piece.
    by_cases here : c = separator
    · refine ⟨[], first :: more, ?_, ?_, List.forall_mem_cons.2 ⟨List.not_mem_nil, none⟩⟩
      · rw [pieces, if_pos here, pieces_eq]
      · rw [joined, here]
        rfl
    · refine ⟨c :: first, more, ?_, ?_, ?_⟩
      · rw [pieces, if_neg here, pieces_eq]
      · rw [joined]
        rfl
      · obtain ⟨rest, none⟩ := List.forall_mem_cons.1 none
        exact List.forall_mem_cons.2 ⟨mt List.mem_cons.1 (not_or.2 ⟨Ne.symm here, rest⟩), none⟩

/-- A text is cut at the first separator. -/
theorem cut?_eq_some_iff {separator : Char} {s before after : List Char} :
    cut? separator s = some (before, after) ↔
    s = before ++ separator :: after ∧ separator ∉ before := by
  induction s generalizing before with
  | nil => simp [cut?]
  | cons c s ih =>
    rw [cut?]
    split
    next here =>
      subst here
      cases before with
      | nil => simp [eq_comm]
      | cons d before =>
        simp only [Option.some.injEq, Prod.mk.injEq, List.nil_eq, List.cons_append, List.cons.injEq,
          List.mem_cons]
        tauto
    -- A character that does not separate belongs to the part in front, and the rest is cut.
    next other =>
      cases before with
      | nil => simp [other]
      | cons d before =>
        have parts : (∃ x, cut? separator s = some x ∧ (c :: x.1, x.2) = (d :: before, after)) ↔
            c = d ∧ cut? separator s = some (before, after) := by
          constructor
          · rintro ⟨⟨_, _⟩, cut, h⟩
            cases h
            exact ⟨rfl, cut⟩
          · rintro ⟨rfl, cut⟩
            exact ⟨_, cut, rfl⟩
        rw [Option.map_eq_some_iff, parts, ih, List.cons_append, List.cons.injEq,
          List.mem_cons, not_or]
        constructor
        · rintro ⟨rfl, h, first⟩
          exact ⟨⟨rfl, h⟩, Ne.symm other, first⟩
        · rintro ⟨⟨rfl, h⟩, -, first⟩
          exact ⟨rfl, h, first⟩

theorem cut?_eq_none_iff {separator : Char} {s : List Char} :
    cut? separator s = none ↔ separator ∉ s := by
  induction s with
  | nil => simp [cut?]
  | cons c s ih =>
    rw [cut?, List.mem_cons, not_or]
    split
    next here => simp [here]
    next other => simp [ih, Ne.symm other]

/-- A piece is a line, or one with the carriage return from its end. -/
def IsPieceOf (piece line : List Char) : Prop := piece = line ∨ piece = line ++ ['\r']

theorem IsPieceOf.cons {piece line : List Char} (c : Char) (h : IsPieceOf piece line) :
    IsPieceOf (c :: piece) (c :: line) := by
  rcases h with rfl | rfl
  · exact .inl rfl
  · exact .inr rfl

/-- White space at the end of a text is trimmed. -/
theorem trim_concat {c : Char} (blank : isBlank c = true) (s : List Char) :
    trim (s ++ [c]) = trim s := by
  have behind (t : List Char) : trimEnd (t ++ [c]) = trimEnd t := by
    unfold trimEnd
    rw [List.reverse_append, List.reverse_singleton, List.singleton_append, List.dropWhile_cons,
      if_pos blank]
  unfold trim trimStart
  rw [List.dropWhile_append]
  split
  next empty =>
    rw [List.isEmpty_iff.1 empty, List.dropWhile_cons, if_pos blank]
    rfl
  next => exact behind _

theorem IsPieceOf.trim {piece line : List Char} (h : IsPieceOf piece line) :
    trim piece = trim line := by
  rcases h with rfl | rfl
  · rfl
  · exact trim_concat (by decide) line

/-- The pieces between line feeds are the lines, and behind the last line feed an empty one. -/
theorem pieces_lines (s : List Char) :
    ∃ behind, (behind = [] ∨ behind = [[]]) ∧
    List.Forall₂ IsPieceOf (pieces '\n' s) (lines s ++ behind) := by
  -- The cases of the recursion: nothing, either end of a line, and a character of one.
  fun_induction lines s with
  | case1 => exact ⟨[[]], .inr rfl, .cons (.inl rfl) .nil⟩
  | case2 rest ih =>
    obtain ⟨behind, shape, same⟩ := ih
    exact ⟨behind, shape, .cons (.inl rfl) same⟩
  | case3 rest ih =>
    obtain ⟨behind, shape, same⟩ := ih
    exact ⟨behind, shape, .cons (.inr rfl) same⟩
  | case4 c rest feed feeds empty ih =>
    obtain rfl := lines_eq_nil_iff.1 empty
    have whole : pieces '\n' [c] = [[c]] := pieces_of_not_mem (by simpa using Ne.symm feed)
    refine ⟨[], .inl rfl, ?_⟩
    rw [whole]
    exact .cons (.inl rfl) .nil
  | case5 c rest feed feeds line more eq ih =>
    obtain ⟨behind, shape, same⟩ := ih
    rw [eq, List.cons_append] at same
    obtain ⟨piece, others, here, there, split⟩ := List.forall₂_cons_right_iff.1 same
    refine ⟨behind, shape, ?_⟩
    rw [pieces, if_neg feed, split]
    exact .cons (here.cons c) there

/-- The last piece is no line if it is empty, and a carriage return on its own stays where it is. -/
example : lines "a\r\n\nb\r\n".toList = [['a'], [], ['b']] ∧
    lines "b\r".toList = [['b', '\r']] := by decide

end Spreadsheet.Text
