import Mathlib
import Spreadsheet.Text.Regex

/-!
# `Proofs/Text/Regex.lean` — what expressions match

What some pieces match is said by rules (`Matches`), one for each way to go on: a piece takes one
character that it accepts, or a repetition ends, or it takes one character and stays. Two things are
proved of these rules.

* Matching fills a table that has an entry for each suffix of a text. Its entries behind the first
  are the table of the rest of the text (`table_cons`), so the first entry obeys one equation for
  each kind of piece (`isMatch_once_cons`, `isMatch_repeated_cons`), and by these equations it is
  true just of the texts that match (`isMatch_iff`).
* The text of an expression can be read back. A character that is escaped is taken for itself
  whatever it means otherwise, so the symbols of a piece are those that it was written with
  (`symbols?_pieces`), and as no piece begins with a star, the symbols fall into pieces in one way
  only (`pieces?_symbols`).

Nothing else is relied on where an engine decides what matches. An engine is `Documented` if a
compiled expression is true just of the texts that its pieces match, and the engine that the program
runs on is (`standard_documented`).
-/

set_option autoImplicit false

namespace Spreadsheet.Regex

variable {same : Char → Char → Bool} {a : Atom} {pieces : List Piece} {s : List Char}

/-! ## Rules -/

/-- The texts that pieces match, given when two characters are the same but for case. -/
inductive Matches (same : Char → Char → Bool) : List Piece → List Char → Prop
  | done : Matches same [] []
  | once {a : Atom} {d : Char} {pieces : List Piece} {s : List Char} (accepted : a.accepts same d)
      (h : Matches same pieces s) : Matches same (.once a :: pieces) (d :: s)
  /-- A repetition has come to its end. -/
  | skip {a : Atom} {pieces : List Piece} {s : List Char} (h : Matches same pieces s) :
      Matches same (.repeated a :: pieces) s
  /-- A repetition goes on. -/
  | more {a : Atom} {d : Char} {pieces : List Piece} {s : List Char} (accepted : a.accepts same d)
      (h : Matches same (.repeated a :: pieces) s) : Matches same (.repeated a :: pieces) (d :: s)

/-! ## The table -/

theorem table_cons_piece (piece : Piece) (pieces : List Piece) (s : List Char) :
    table same s (piece :: pieces) = piece.table same s (table same s pieces) := rfl

/-- There is an entry for the whole text. -/
theorem table_eq (same : Char → Char → Bool) (s : List Char) (pieces : List Piece) :
    ∃ rest, table same s pieces = isMatch same pieces s :: rest := by
  have nonempty : table same s pieces ≠ [] := by
    induction pieces with
    | nil => simp [table]
    | cons piece pieces ih =>
      rw [table_cons_piece]
      -- A piece for one character makes a table of its own; a repetition extends the one behind
      -- it.
      cases piece with
      | once a => simp [Piece.table]
      | repeated a =>
        obtain ⟨b, rest, eq⟩ := List.exists_cons_of_ne_nil ih
        rw [eq]
        cases s with
        | nil => exact List.cons_ne_nil _ _
        | cons d s => exact List.cons_ne_nil _ _
  obtain ⟨b, rest, eq⟩ := List.exists_cons_of_ne_nil nonempty
  refine ⟨rest, ?_⟩
  rw [isMatch, eq]
  rfl

/-- The entries for the suffixes of what follows a character do not depend on it. -/
theorem table_cons (d : Char) (s : List Char) (pieces : List Piece) :
    table same (d :: s) pieces = isMatch same pieces (d :: s) :: table same s pieces := by
  have behind : (table same (d :: s) pieces).tail = table same s pieces := by
    induction pieces with
    | nil => rfl
    | cons piece pieces ih =>
      obtain ⟨rest, eq⟩ := table_eq same (d :: s) pieces
      obtain ⟨rest', eq'⟩ := table_eq same s pieces
      rw [eq] at ih
      rw [table_cons_piece, table_cons_piece, eq, ← ih]
      rw [← ih] at eq'
      cases piece with
      | once a =>
        simp only [Piece.table, eq', List.tail_cons, List.zipWith_cons_cons, List.cons_append]
      | repeated a => rfl
  obtain ⟨rest, eq⟩ := table_eq same (d :: s) pieces
  rw [eq] at behind ⊢
  rw [← behind]
  rfl

/-- The empty text has one suffix. -/
theorem table_nil (pieces : List Piece) : table same [] pieces = [isMatch same pieces []] := by
  have last : (table same [] pieces).tail = [] := by
    induction pieces with
    | nil => rfl
    | cons piece pieces ih =>
      rw [table_cons_piece]
      cases piece with
      | once a => rfl
      | repeated a => exact ih
  obtain ⟨rest, eq⟩ := table_eq same [] pieces
  rw [eq] at last ⊢
  obtain rfl : rest = [] := last
  rfl

/-! ## Matching, piece by piece -/

theorem isMatch_nil (s : List Char) : isMatch same [] s = s.isEmpty := by cases s <;> rfl

theorem isMatch_once_nil (a : Atom) (pieces : List Piece) :
    isMatch same (.once a :: pieces) [] = false := by
  rw [isMatch, table_cons_piece, table_nil]
  rfl

theorem isMatch_once_cons (a : Atom) (pieces : List Piece) (d : Char) (s : List Char) :
    isMatch same (.once a :: pieces) (d :: s) =
      (a.accepts same d && isMatch same pieces s) := by
  obtain ⟨rest, eq⟩ := table_eq same s pieces
  rw [isMatch, table_cons_piece, table_cons, eq]
  rfl

theorem isMatch_repeated_nil (a : Atom) (pieces : List Piece) :
    isMatch same (.repeated a :: pieces) [] = isMatch same pieces [] := by
  rw [isMatch, table_cons_piece, table_nil]
  rfl

theorem isMatch_repeated_cons (a : Atom) (pieces : List Piece) (d : Char) (s : List Char) :
    isMatch same (.repeated a :: pieces) (d :: s) = (isMatch same pieces (d :: s) ||
      (a.accepts same d && isMatch same (.repeated a :: pieces) s)) := by
  rw [isMatch, table_cons_piece, table_cons]
  rfl

theorem matches_of_isMatch (h : isMatch same pieces s = true) : Matches same pieces s := by
  -- A repetition stays in front while the text gets shorter, so there the text is gone through too.
  induction pieces generalizing s with
  | nil =>
    rw [isMatch_nil, List.isEmpty_iff] at h
    exact h ▸ .done
  | cons piece pieces ih =>
    cases piece with
    | once a =>
      cases s with
      | nil =>
        rw [isMatch_once_nil] at h
        cases h
      | cons d s =>
        rw [isMatch_once_cons, Bool.and_eq_true] at h
        exact .once h.1 (ih h.2)
    | repeated a =>
      induction s with
      | nil =>
        rw [isMatch_repeated_nil] at h
        exact .skip (ih h)
      | cons d s further =>
        rw [isMatch_repeated_cons, Bool.or_eq_true, Bool.and_eq_true] at h
        rcases h with rest | ⟨accepted, more⟩
        · exact .skip (ih rest)
        · exact .more accepted (further more)

theorem isMatch_of_matches (h : Matches same pieces s) : isMatch same pieces s = true := by
  induction h with
  | done => rfl
  | once accepted _ ih => rw [isMatch_once_cons, accepted, ih, Bool.and_self]
  | @skip a pieces s _ ih =>
    cases s with
    | nil => rw [isMatch_repeated_nil, ih]
    | cons d s => rw [isMatch_repeated_cons, ih, Bool.true_or]
  | more accepted _ ih => rw [isMatch_repeated_cons, accepted, ih, Bool.and_self, Bool.or_true]

/-- What the table says is what the rules say. -/
theorem isMatch_iff : isMatch same pieces s = true ↔ Matches same pieces s :=
  ⟨matches_of_isMatch, isMatch_of_matches⟩

instance : Decidable (Matches same pieces s) := decidable_of_iff _ isMatch_iff

/-- A repetition of any character takes what it likes. -/
theorem matches_run_iff :
    Matches same (.repeated .any :: pieces) s ↔ ∃ u t, s = u ++ t ∧ Matches same pieces t := by
  constructor
  · intro h
    induction s with
    | nil =>
      cases h with
      | skip h => exact ⟨[], [], rfl, h⟩
    | cons d s ih =>
      cases h with
      | skip h => exact ⟨[], d :: s, rfl, h⟩
      | more _ h =>
        obtain ⟨u, t, rfl, rest⟩ := ih h
        exact ⟨d :: u, t, rfl, rest⟩
  -- It takes the first part character by character and stops.
  · rintro ⟨u, t, rfl, h⟩
    induction u with
    | nil => exact .skip h
    | cons d u ih => exact .more rfl ih

theorem matches_once_iff : Matches same (.once a :: pieces) s ↔
    ∃ d t, s = d :: t ∧ a.accepts same d = true ∧ Matches same pieces t := by
  constructor
  · intro h
    cases h with
    | once accepted h => exact ⟨_, _, rfl, accepted, h⟩
  · rintro ⟨d, t, rfl, accepted, h⟩
    exact .once accepted h

/-! ## Engines -/

/-- An atom as it stands in an expression. -/
def Engine.atom (engine : Engine) : Atom → String
  | .any => "."
  | .exactly c => engine.escape (String.singleton c)

/-- A piece as it stands in an expression. -/
def Engine.piece (engine : Engine) : Piece → String
  | .once a => engine.atom a
  | .repeated a => engine.atom a ++ "*"

/-- The text of the expression for some pieces: case and line breaks make no difference to it, and
the whole of a text must match. -/
def Engine.expression (engine : Engine) (pieces : List Piece) : String :=
  opening ++ String.join (pieces.map engine.piece) ++ closing

/-- What engines for regular expressions are documented to do, as far as pieces are concerned. A
full stop stands for any character, what is escaped stands for itself, and a star behind either for
any number of them; pieces match one after the other. Which characters are the same but for case is
a matter of the engine, too. Nothing is said of which expressions are refused. -/
structure Engine.Documented (engine : Engine) (same : Char → Char → Bool) : Prop where
  compiled : ∀ {pieces : List Piece} {test : String → Bool},
    engine.compile? (engine.expression pieces) = some test →
      ∀ s : String, test s = true ↔ Matches same pieces s.toList

/-! ## Reading expressions back -/

/-- The symbols that a piece is written with. -/
def Piece.symbols : Piece → List Symbol
  | .once a => [.atom a]
  | .repeated a => [.atom a, .star]

theorem symbols?_escaped {c : Char} (special : isMeta c = true) (rest : List Char) :
    symbols? ('\\' :: c :: rest) = (symbols? rest).map (.atom (.exactly c) :: ·) := by
  rw [symbols?, special]
  cases symbols? rest <;> rfl

theorem symbols?_cons {c : Char} (plain : c ≠ '\\') (rest : List Char) :
    symbols? (c :: rest) =
      (Symbol.ofChar? c).bind fun symbol => (symbols? rest).map (symbol :: ·) := by
  rw [symbols?]
  · cases Symbol.ofChar? c <;> cases symbols? rest <;> rfl
  · exact fun _ _ same => absurd same plain

theorem symbols?_atom (a : Atom) (rest : List Char) :
    symbols? ((Engine.standard.atom a).toList ++ rest) = (symbols? rest).map (.atom a :: ·) := by
  cases a with
  | any => exact symbols?_cons (by decide) rest
  | exactly c =>
    have written : (Engine.standard.atom (.exactly c)).toList =
        if isMeta c then ['\\', c] else [c] := by
      simp [Engine.atom, Engine.standard]
    rw [written]
    by_cases special : isMeta c = true
    · rw [if_pos special]
      exact symbols?_escaped special rest
    · have differs (d : Char) (hd : isMeta d = true) : c ≠ d := by
        rintro rfl
        exact special hd
      have itself : Symbol.ofChar? c = some (.atom (.exactly c)) := by
        rw [Symbol.ofChar?, if_neg (differs '.' (by decide)), if_neg (differs '*' (by decide)),
          if_neg special]
      rw [if_neg special, List.singleton_append, symbols?_cons (differs '\\' (by decide)), itself]
      rfl

theorem symbols?_pieces (pieces : List Piece) :
    symbols? (String.join (pieces.map Engine.standard.piece)).toList =
      some (pieces.flatMap Piece.symbols) := by
  induction pieces with
  | nil => rfl
  | cons piece pieces ih =>
    rw [List.map_cons, String.join_cons, String.toList_append, List.flatMap_cons]
    cases piece with
    | once a =>
      rw [Engine.piece, symbols?_atom, ih]
      rfl
    | repeated a =>
      have star (rest : List Char) :
          symbols? ("*".toList ++ rest) = (symbols? rest).map (.star :: ·) :=
        symbols?_cons (by decide) rest
      rw [Engine.piece, String.toList_append, List.append_assoc, symbols?_atom, star, ih]
      rfl

/-- No piece begins with a star, so what comes before a piece is complete. -/
theorem pieces?_once (a : Atom) (pieces : List Piece) :
    pieces? (.atom a :: pieces.flatMap Piece.symbols) =
      (pieces? (pieces.flatMap Piece.symbols)).map (.once a :: ·) := by
  cases pieces with
  | nil => rfl
  | cons piece pieces =>
    cases piece with
    | once b =>
      rw [List.flatMap_cons, Piece.symbols, List.singleton_append, pieces?]
      · cases pieces? (.atom b :: pieces.flatMap Piece.symbols) <;> rfl
      · exact fun _ eq => by cases eq
    | repeated b =>
      rw [List.flatMap_cons, Piece.symbols, List.cons_append, pieces?]
      · cases pieces? (.atom b :: ([.star] ++ pieces.flatMap Piece.symbols)) <;> rfl
      · exact fun _ eq => by cases eq

theorem pieces?_symbols (pieces : List Piece) :
    pieces? (pieces.flatMap Piece.symbols) = some pieces := by
  induction pieces with
  | nil => rfl
  | cons piece pieces ih =>
    cases piece with
    | once a =>
      rw [List.flatMap_cons, Piece.symbols, List.singleton_append, pieces?_once, ih]
      rfl
    | repeated a =>
      rw [List.flatMap_cons, Piece.symbols, List.cons_append, List.singleton_append, pieces?, ih]
      rfl

theorem ofChars?_expression (pieces : List Piece) :
    ofChars? (Engine.standard.expression pieces).toList = some pieces := by
  have text : (Engine.standard.expression pieces).toList = opening.toList ++
      ((String.join (pieces.map Engine.standard.piece)).toList ++ ['$']) := by
    rw [Engine.expression, String.toList_append, String.toList_append, List.append_assoc]
    rfl
  have opens : opening.toList.isPrefixOf (Engine.standard.expression pieces).toList = true := by
    rw [text, List.isPrefixOf_iff_prefix]
    exact List.prefix_append _ _
  have closes : closing.toList.isSuffixOf (Engine.standard.expression pieces).toList = true := by
    rw [text, List.isSuffixOf_iff_suffix, ← List.append_assoc]
    exact List.suffix_append _ _
  -- Between what opens and what closes stands the text of the pieces.
  have inside : ((Engine.standard.expression pieces).toList.drop opening.toList.length).dropLast =
      (String.join (pieces.map Engine.standard.piece)).toList := by
    rw [text, List.drop_left, List.dropLast_concat]
  rw [ofChars?, opens, closes, inside]
  dsimp only
  rw [symbols?_pieces]
  exact pieces?_symbols pieces

/-- The engine that the program runs on does what engines are documented to do. -/
theorem standard_documented : Engine.standard.Documented Text.sameLetter where
  compiled {pieces test} compiled s := by
    have read : Engine.standard.compile? (Engine.standard.expression pieces) =
        some fun s => isMatch Text.sameLetter pieces s.toList := by
      show (ofChars? _).map _ = _
      rw [ofChars?_expression]
      rfl
    rw [read, Option.some.injEq] at compiled
    rw [← compiled]
    exact isMatch_iff

/-- It refuses none of the expressions for pieces. -/
theorem standard_compiles (pieces : List Piece) :
    (Engine.standard.compile? (Engine.standard.expression pieces)).isSome = true := by
  show ((ofChars? _).map _).isSome = true
  rw [ofChars?_expression]
  rfl

end Spreadsheet.Regex
