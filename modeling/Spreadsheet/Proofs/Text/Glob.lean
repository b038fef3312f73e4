import Mathlib
import Spreadsheet.Proofs.Text.Regex
import Spreadsheet.Text.Glob

/-!
# `Proofs/Text/Glob.lean` — a pattern is translated to what it describes

What a pattern describes is given by rules on its text (`Describes`): a star stands for any run, a
question mark for any one character, a tilde for the character behind it, and everything else for
itself in either case.

The expression that a pattern is translated to is the text of certain pieces (`body_eq`), one for
each wildcard and one for each character that stands for itself. These pieces match just the texts
that the pattern describes (`matches_pieces_iff`), so that an engine which is `Documented` finds
just those (`test_iff_describes`), if it compiles the expression.

The cases are those of the recursion that goes through a pattern: a tilde at the end, a tilde with a
character behind it, and any other character, which may be a wildcard.
-/

set_option autoImplicit false

namespace Spreadsheet.Text.Glob

open Regex (Engine Matches Piece)

/-! ## What patterns describe -/

/-- The texts that a pattern stands for, given when two characters are the same but for case. -/
inductive Describes (same : Char → Char → Bool) : List Char → List Char → Prop
  | empty : Describes same [] []
  /-- A star stands for any run of characters. -/
  | run {p s : List Char} (u : List Char) (h : Describes same p s) :
      Describes same ('*' :: p) (u ++ s)
  /-- A question mark stands for any one character. -/
  | any {p s : List Char} (d : Char) (h : Describes same p s) : Describes same ('?' :: p) (d :: s)
  /-- A tilde takes the character behind it literally. -/
  | escaped {p s : List Char} {c d : Char} (alike : same d c) (h : Describes same p s) :
      Describes same ('~' :: c :: p) (d :: s)
  /-- A tilde at the end stands for itself. -/
  | tilde {d : Char} (alike : same d '~') : Describes same ['~'] [d]
  /-- Everything else stands for itself. -/
  | letter {p s : List Char} {c d : Char} (plain : c ≠ '*' ∧ c ≠ '?' ∧ c ≠ '~') (alike : same d c)
      (h : Describes same p s) : Describes same (c :: p) (d :: s)

/-- The patterns in which some star or question mark is not taken literally. -/
inductive IsWild : List Char → Prop
  | here {c : Char} (wild : c = '*' ∨ c = '?') (p : List Char) : IsWild (c :: p)
  | escaped {p : List Char} (c : Char) (h : IsWild p) : IsWild ('~' :: c :: p)
  | later {p : List Char} {c : Char} (plain : c ≠ '~') (h : IsWild p) : IsWild (c :: p)

variable {same : Char → Char → Bool} {engine : Engine} {c d : Char} {p s : List Char}

/-- A character that begins a pattern in no other way is no tilde. -/
theorem not_tilde (alone : c = '~' → p = [] → False)
    (behind : ∀ d q, c = '~' → p = d :: q → False) : c ≠ '~' := by
  intro tilde
  cases p with
  | nil => exact alone tilde rfl
  | cons d q => exact behind d q tilde rfl

/-- A pattern has a wildcard if it has one that is not escaped. -/
theorem hasWildcard_iff (p : List Char) : hasWildcard p = true ↔ IsWild p := by
  fun_induction hasWildcard p with
  | case1 =>
    constructor
    · intro h
      cases h
    · intro h
      cases h
  | case2 =>
    constructor
    · intro h
      cases h
    · intro h
      cases h with
      | here wild => exact absurd wild (by decide)
      | later plain => exact absurd rfl plain
  -- Behind a tilde nothing is a wildcard.
  | case3 c p ih =>
    rw [ih]
    constructor
    · intro h
      exact .escaped c h
    · intro h
      cases h with
      | here wild => exact absurd wild (by decide)
      | escaped c h => exact h
      | later plain => exact absurd rfl plain
  | case4 c p alone behind ih =>
    have plain := not_tilde alone behind
    rw [Bool.or_eq_true, Bool.or_eq_true, decide_eq_true_iff, decide_eq_true_iff, ih]
    constructor
    · rintro (wild | h)
      · exact .here wild p
      · exact .later plain h
    · intro h
      cases h with
      | here wild => exact .inl wild
      | escaped => exact absurd rfl plain
      | later _ h => exact .inr h

instance : Decidable (IsWild p) := decidable_of_iff _ (hasWildcard_iff p)

/-! ## The pieces of a pattern -/

/-- The piece for a character that is not escaped. -/
def piece (c : Char) : Piece :=
  if c = '*' then .repeated .any else if c = '?' then .once .any else .once (.exactly c)

/-- The pieces that a pattern is made of. -/
def pieces : List Char → List Piece
  | [] => []
  | ['~'] => [.once (.exactly '~')]
  | '~' :: c :: rest => .once (.exactly c) :: pieces rest
  | c :: rest => piece c :: pieces rest

theorem pieces_cons (plain : c ≠ '~') (p : List Char) : pieces (c :: p) = piece c :: pieces p := by
  rw [pieces]
  · exact fun same => absurd same plain
  · exact fun _ _ same => absurd same plain

theorem piece_text (c : Char) : engine.piece (piece c) =
    if c = '*' then ".*" else if c = '?' then "." else literal engine c := by
  unfold piece
  split
  · rfl
  · split
    · rfl
    · rfl

/-- A pattern is translated to the text of its pieces. -/
theorem body_eq (engine : Engine) (p : List Char) :
    body engine p = String.join ((pieces p).map engine.piece) := by
  fun_induction pieces p with
  | case1 => rfl
  | case2 =>
    rw [List.map_singleton, String.join_cons, String.join_nil, String.append_empty]
    rfl
  | case3 c p ih =>
    rw [List.map_cons, String.join_cons, ← ih]
    rfl
  | case4 c p alone behind ih =>
    rw [List.map_cons, String.join_cons, ← ih, piece_text, body]
    · exact alone
    · exact behind

theorem expression_eq (engine : Engine) (s : String) :
    expression engine s = engine.expression (pieces s.toList) := by
  unfold expression Engine.expression
  rw [body_eq]

/-! ## Matching and meaning -/

theorem describes_of_matches (h : Matches same (pieces p) s) : Describes same p s := by
  fun_induction pieces p generalizing s with
  | case1 =>
    cases h
    exact .empty
  | case2 =>
    obtain ⟨d, t, rfl, alike, rest⟩ := Regex.matches_once_iff.1 h
    cases rest
    exact .tilde alike
  | case3 c p ih =>
    obtain ⟨d, t, rfl, alike, rest⟩ := Regex.matches_once_iff.1 h
    exact .escaped alike (ih rest)
  -- What is no tilde is a star, a question mark, or stands for itself.
  | case4 c p alone behind ih =>
    unfold piece at h
    split at h
    next star =>
      obtain ⟨u, t, rfl, rest⟩ := Regex.matches_run_iff.1 h
      exact star ▸ .run u (ih rest)
    split at h
    next question =>
      obtain ⟨d, t, rfl, -, rest⟩ := Regex.matches_once_iff.1 h
      exact question ▸ .any d (ih rest)
    next star question =>
      obtain ⟨d, t, rfl, alike, rest⟩ := Regex.matches_once_iff.1 h
      exact .letter ⟨star, question, not_tilde alone behind⟩ alike (ih rest)

theorem matches_of_describes (h : Describes same p s) : Matches same (pieces p) s := by
  induction h with
  | empty => exact .done
  | @run p s u _ ih =>
    rw [pieces_cons (by decide)]
    exact Regex.matches_run_iff.2 ⟨u, s, rfl, ih⟩
  | any d _ ih =>
    rw [pieces_cons (by decide)]
    exact .once rfl ih
  | escaped alike _ ih => exact .once alike ih
  | tilde alike => exact .once alike .done
  | @letter p s c d plain alike _ ih =>
    rw [pieces_cons plain.2.2, piece, if_neg plain.1, if_neg plain.2.1]
    exact .once alike ih

/-- The pieces of a pattern match the texts that it describes. -/
theorem matches_pieces_iff : Matches same (pieces p) s ↔ Describes same p s :=
  ⟨describes_of_matches, matches_of_describes⟩

instance : Decidable (Describes same p s) := decidable_of_iff _ matches_pieces_iff

/-! ## Texts as patterns -/

/-- Whether an engine compiles the expression that a pattern is translated to. -/
def IsCompiled (engine : Engine) (p : String) : Prop :=
  (engine.compile? (expression engine p)).isSome = true

instance (engine : Engine) (p : String) : Decidable (IsCompiled engine p) :=
  inferInstanceAs (Decidable (_ = true))

/-- A text spells a test if it has a wildcard and the engine compiles its expression. -/
theorem ofText?_eq (engine : Engine) (s : String) : ofText? engine s =
    if IsWild s.toList then engine.compile? (expression engine s) else none := by
  unfold ofText?
  by_cases wild : IsWild s.toList
  · rw [if_pos wild, if_pos ((hasWildcard_iff _).2 wild)]
  · rw [if_neg wild, if_neg (mt (hasWildcard_iff _).1 wild)]

/-- The test that a pattern is compiled to is true of the texts that the pattern describes. -/
theorem test_iff_describes (documented : engine.Documented same) {p : String}
    {test : String → Bool} (compiled : engine.compile? (expression engine p) = some test)
    (s : String) : test s = true ↔ Describes same p.toList s.toList := by
  rw [expression_eq] at compiled
  exact (documented.compiled compiled s).trans matches_pieces_iff

/-- The engine that the program runs on compiles every pattern. -/
theorem isCompiled_standard (p : String) : IsCompiled .standard p := by
  unfold IsCompiled
  rw [expression_eq]
  exact Regex.standard_compiles _

example : Describes sameLetter "what~?*".toList "WHAT? now".toList ∧
    ¬ Describes sameLetter "what~?*".toList "whatX now".toList := by decide

end Spreadsheet.Text.Glob
