import Spreadsheet.Proofs.Formula.Layout

/-!
# `Proofs/Formula/Spacing.lean` — white space between tokens

Blanks may be put in between the tokens of a formula (`Spacing`), and the tree stays what it is
(`parse_spaced`). A token ends where it cannot be gone on with, and a blank does not go on with it
either. So what is behind a token counts in two places only: a name is called if a parenthesis is
right behind it, which is why no blank is put in there, and a numeral goes on with an exponent if
that has digits, which blanks do not bring about.

That a token ends where it did is shown for each kind of it: for numerals (`Spread.numeral`),
names (`Spread.name`), and texts and symbols (`Spread.symbol`). The texts behind the token, with
the blanks and without them, are compared by `Spread`, which puts blanks in between any two
characters.
-/

set_option autoImplicit false

namespace Spreadsheet

namespace Token

variable {offset n : Nat} {s s' u text : List Char} {kind : Kind} {c mark : Char}
    {tokens : List Token}

/-! ## Texts with blanks put in -/

/-- The second text is the first one with blanks put in. -/
inductive Spread : List Char → List Char → Prop where
  | nil : Spread [] []
  | blank {c : Char} {s s' : List Char} (blank : Text.isBlank c = true) (rest : Spread s s') :
      Spread s (c :: s')
  | keep {s s' : List Char} (c : Char) (rest : Spread s s') : Spread (c :: s) (c :: s')

namespace Spread

theorem append_left (spread : Spread s s') (u : List Char) : Spread (u ++ s) (u ++ s') := by
  induction u with
  | nil => exact spread
  | cons c u ih => exact .keep c ih

theorem stopsAt {p : Char → Bool} (spread : Spread s s') (stops : Text.StopsAt p s)
    (visible : ∀ c, Text.isBlank c = true → p c = false) : Text.StopsAt p s' := by
  cases spread with
  | nil => exact stops
  | blank blank => exact Text.stopsAt_cons.2 (visible _ blank)
  | keep c => exact Text.stopsAt_cons.2 (Text.stopsAt_cons.1 stops)

theorem head?_ne (spread : Spread s s') (other : s.head? ≠ some c)
    (visible : Text.isBlank c = false) :
    s'.head? ≠ some c := by
  cases spread with
  | nil => exact other
  | blank blank =>
    rintro ⟨⟩
    rw [blank] at visible
    cases visible
  | keep d => exact other

end Spread

/-! ## Where numerals end -/

theorem mantissaLength_stops (s : List Char) :
    Text.StopsAt Char.isDigit (s.drop (mantissaLength s)) := by
  unfold mantissaLength
  dsimp only
  split
  next fraction behind =>
    rw [Nat.add_assoc, ← List.drop_drop, behind, Nat.add_comm 1, List.drop_succ_cons]
    exact Text.stopsAt_drop _ _
  next => exact Text.stopsAt_drop _ _

theorem Spread.stopsAt_digit (spread : Spread s s') (stops : Text.StopsAt Char.isDigit s) :
    Text.StopsAt Char.isDigit s' :=
  spread.stopsAt stops fun _ blank => (Text.blank_breaks blank).1

theorem Spread.digitRun_append (spread : Spread s s') (run : digitRun (u ++ s) = u.length) :
    digitRun (u ++ s') = u.length := by
  obtain ⟨digits, stops⟩ := digitRun_append_eq_iff.1 run
  exact digitRun_append_eq_iff.2 ⟨digits, spread.stopsAt_digit stops⟩

/-- Blanks do not make an exponent of what is none. -/
theorem Spread.exponentLength_eq_zero (spread : Spread s s') (none : exponentLength s = 0) :
    exponentLength s' = 0 := by
  cases spread with
  | nil => exact none
  | blank blank =>
    apply exponentLength_of_no_letter
    rintro (rfl | rfl) <;> exact (Text.blank_breaks blank).2.2.2.2 (by simp)
  | keep e rest =>
    by_cases letter : e = 'e' ∨ e = 'E'
    case neg => exact exponentLength_of_no_letter letter _
    case pos =>
      cases rest with
      | nil => exact none
      | blank blank =>
        obtain ⟨digit, -, -, -, sign⟩ := Text.blank_breaks blank
        rw [exponentLength_of_no_sign letter,
          if_pos (digitRun_eq_zero_iff.2 (Text.stopsAt_cons.2 digit))]
        rintro (rfl | rfl) <;> exact sign (by simp)
      | @keep s s' d rest =>
        by_cases signed : d = '+' ∨ d = '-'
        · rw [exponentLength_of_sign letter signed] at none ⊢
          -- Behind the sign there was no digit, and there is none now.
          have run : digitRun s = 0 := by split at none <;> omega
          rw [if_pos (digitRun_eq_zero_iff.2 (rest.stopsAt_digit (digitRun_eq_zero_iff.1 run)))]
        · rw [exponentLength_of_no_sign letter signed] at none ⊢
          have run : digitRun (d :: s) = 0 := by split at none <;> omega
          rw [if_pos (digitRun_eq_zero_iff.2
            ((Spread.keep d rest).stopsAt_digit (digitRun_eq_zero_iff.1 run)))]

theorem Spread.exponentLength_append (spread : Spread s s')
    (length : exponentLength (u ++ s) = u.length) :
    exponentLength (u ++ s') = u.length := by
  cases u with
  | nil => exact spread.exponentLength_eq_zero length
  | cons e u =>
    by_cases letter : e = 'e' ∨ e = 'E'
    case neg =>
      rw [List.cons_append, exponentLength_of_no_letter letter] at length
      cases length
    case pos =>
      cases u with
      | nil =>
        -- An exponent has digits.
        cases s with
        | nil => cases (exponentLength_singleton e).symm.trans length
        | cons d s =>
          rw [List.cons_append, List.nil_append, List.length_singleton] at length
          by_cases signed : d = '+' ∨ d = '-'
          · rw [exponentLength_of_sign letter signed] at length
            split at length <;> omega
          · rw [exponentLength_of_no_sign letter signed] at length
            split at length <;> omega
      | cons d u =>
        rw [List.cons_append, List.cons_append, List.length_cons, List.length_cons] at length ⊢
        by_cases signed : d = '+' ∨ d = '-'
        · rw [exponentLength_of_sign letter signed] at length ⊢
          -- The digits of the exponent take up all of the token, and a blank ends them as well.
          have run : digitRun (u ++ s) = u.length := by split at length <;> omega
          rw [run] at length
          rwa [spread.digitRun_append run]
        · rw [exponentLength_of_no_sign letter signed] at length ⊢
          have run : digitRun (d :: u ++ s) = (d :: u).length := by
            rw [List.cons_append, List.length_cons]
            split at length <;> omega
          rw [List.cons_append] at run
          rw [run] at length
          rwa [← List.cons_append, spread.digitRun_append run]

/-- A numeral ends where it did. -/
theorem Spread.numeral (spread : Spread s s') (h : numeral offset (u ++ s) = .ok (kind, u.length))
    (place : Nat) :
    numeral place (u ++ s') = .ok (kind, u.length) := by
  obtain ⟨point, length, spelled⟩ := numeral_eq_ok_iff.1 h
  have stops := mantissaLength_stops (u ++ s)
  -- The token is cut into its mantissa and its exponent.
  obtain ⟨m, q, rfl, mantissa⟩ : ∃ m q, u = m ++ q ∧ mantissaLength (u ++ s) = m.length := by
    refine ⟨u.take (mantissaLength (u ++ s)), u.drop (mantissaLength (u ++ s)),
      (List.take_append_drop _ _).symm, ?_⟩
    rw [List.length_take]
    omega
  rw [List.append_assoc] at mantissa
  rw [List.append_assoc, mantissa, List.drop_left] at point length stops
  rw [List.length_append, Nat.add_right_inj] at length
  have behind : Spread (q ++ s) (q ++ s') := spread.append_left q
  have point' : (q ++ s').head? ≠ some '.' := behind.head?_ne point (by decide)
  have mantissa' : mantissaLength (m ++ (q ++ s')) = m.length := by
    rw [mantissaLength_append stops point] at mantissa
    rw [mantissaLength_append (behind.stopsAt_digit stops) point', mantissa]
  rw [List.take_left] at spelled
  rw [numeral_eq_ok_iff, List.take_left, List.append_assoc, mantissa', List.drop_left,
    List.length_append, spread.exponentLength_append length]
  exact ⟨point', rfl, spelled⟩

/-! ## Where names end -/

theorem bareNameLength_stops (s : List Char) :
    Text.StopsAt isNameChar (s.drop (bareNameLength s)) := by
  unfold bareNameLength
  dsimp only
  split
  next rest behind =>
    rw [Nat.add_assoc, ← List.drop_drop, behind, Nat.add_comm 1, List.drop_succ_cons]
    exact Text.stopsAt_drop _ _
  next => exact Text.stopsAt_drop _ _

theorem nameLength_stops (h : nameLength offset s = .ok n) :
    Text.StopsAt isNameChar (s.drop n) := by
  unfold nameLength at h
  split at h
  next rest =>
    split at h
    next => cases h
    next text m _ =>
      dsimp only at h
      split at h
      next behind =>
        cases h
        rw [Nat.add_assoc, Nat.add_comm 1, List.drop_succ_cons, ← List.drop_drop]
        exact bareNameLength_stops _
      next => cases h
      next => cases h
  next =>
    cases h
    exact bareNameLength_stops s

theorem name_stops (h : name offset s = .ok (kind, n)) : Text.StopsAt isNameChar (s.drop n) := by
  obtain ⟨m, found, ⟨-, -, rfl⟩ | ⟨-, -, c, rest, _, m', behind, -, found', -, rfl⟩ |
    ⟨-, -, rfl⟩⟩ := name_cases h
  · exact nameLength_stops found
  · rw [Nat.add_assoc, ← List.drop_drop, behind, Nat.add_comm 1, List.drop_succ_cons]
    exact nameLength_stops found'
  · exact nameLength_stops found

/-- A name that was not called is not called with blanks behind it. -/
theorem Spread.classify (spread : Spread s s') (other : classify u s ≠ .function) :
    classify u s' = classify u s := by
  by_cases opens : s.head? = some '('
  · by_cases opens' : s'.head? = some '('
    · simp [Token.classify, opens, opens']
    · rw [classify_of_head? u opens', classify_of_ne_function other]
  · rw [classify_of_head? u (spread.head?_ne opens (by decide)), classify_of_head? u opens]

/-- A name ends where it did, and is taken for the same if a name that is called still is. -/
theorem Spread.name (spread : Spread s s') (h : name offset (u ++ s) = .ok (kind, u.length))
    (nonempty : u ≠ []) (mark : s.head? ≠ some '!') (colon : s.head? ≠ some ':')
    (called : kind = .function → s'.head? = some '(') (place : Nat) :
    name place (u ++ s') = .ok (kind, u.length) := by
  by_cases function : kind = .function
  · have isName := isFunctionName_of_name (function ▸ h)
    rw [List.take_left] at isName
    obtain ⟨z, rfl⟩ := List.head?_eq_some_iff.1 (called function)
    rw [function]
    exact isName.name_append nonempty place z
  · have taken := taken_of_name h function
    have stops := name_stops h
    rw [List.take_left] at taken
    rw [List.drop_left] at stops
    -- What follows still ends a name.
    have ends : Ends s' := by
      intro c hc
      refine ⟨spread.stopsAt stops (fun c blank => (Text.blank_breaks blank).2.1) c hc, ?_⟩
      rintro rfl
      exact spread.head?_ne mark (by decide) hc
    refine taken.name_append nonempty ends (spread.head?_ne colon (by decide))
      (fun alone => ?_) place
    obtain ⟨m, -, ⟨-, cell, -⟩ | ⟨-, range, -⟩ | ⟨-, rfl, rfl⟩⟩ := name_cases h
    · rcases classify_cases u [] with kind | ⟨b, kind⟩ | kind <;>
        cases cell.symm.trans (alone.symm.trans kind)
    · rcases classify_cases u [] with kind | ⟨b, kind⟩ | kind <;>
        cases range.symm.trans (alone.symm.trans kind)
    · rw [List.take_left, List.drop_left] at function ⊢
      exact spread.classify function

/-! ## Where other tokens end -/

theorem closeLiteral_single (closed : closeLiteral mark s = some (text, n)) :
    (s.drop n).head? ≠ some mark := by
  fun_induction closeLiteral mark s generalizing text n with
  | case1 | case3 => cases closed
  | case2 =>
    cases closed
    simp
  | case4 rest ih =>
    obtain ⟨r, closed', eq⟩ := Option.map_eq_some_iff.1 closed
    cases eq
    exact ih closed'
  | case5 d rest other =>
    cases closed
    simpa using other
  | case6 c d rest other ih =>
    obtain ⟨r, closed', eq⟩ := Option.map_eq_some_iff.1 closed
    cases eq
    exact ih closed'

theorem Spread.closeLiteral (spread : Spread s s')
    (closed : closeLiteral mark (u ++ s) = some (text, u.length))
    (visible : Text.isBlank mark = false) :
    closeLiteral mark (u ++ s') = some (text, u.length) := by
  have single := closeLiteral_single closed
  rw [List.drop_left] at single
  exact closeLiteral_append_of_some (closeLiteral_of_append closed (Nat.le_refl _)) fun _ =>
    spread.head?_ne single visible

theorem lexeme_less (offset : Nat) (s : List Char) :
    lexeme offset '<' s =
      .ok (if s.head? = some '=' then (.operator .lessEqual, 1)
          else if s.head? = some '>' then (.operator .notEqual, 1)
        else (.operator .less, 0)) := by
  cases s with
  | nil => rfl
  | cons d s =>
    by_cases equal : d = '='
    · subst equal
      rfl
    · by_cases greater : d = '>'
      · subst greater
        rfl
      · have start : startsName '<' = false := by decide
        simp [lexeme, start, equal, greater]

theorem lexeme_greater (offset : Nat) (s : List Char) :
    lexeme offset '>' s =
      .ok (if s.head? = some '=' then (.operator .greaterEqual, 1)
        else (.operator .greater, 0)) := by
  cases s with
  | nil => rfl
  | cons d s =>
    by_cases equal : d = '='
    · subst equal
      rfl
    · have start : startsName '>' = false := by decide
      simp [lexeme, start, equal]

/-- The character behind a token's first is not another one because of blanks behind the token. -/
theorem Spread.second {d : Char} (spread : Spread s s') (visible : Text.isBlank d = false)
    (other : u = [] → s.head? ≠ some d) : (u ++ s').head? = some d ↔ (u ++ s).head? = some d := by
  cases u with
  | nil => exact iff_of_false (spread.head?_ne (other rfl) visible) (other rfl)
  | cons => rfl

/-- A text or a symbol ends where it did. -/
theorem Spread.symbol (spread : Spread s s') (numeric : startsNumeral c (u ++ s) = false)
    (start : startsName c = false) (lexed : lexeme offset c (u ++ s) = .ok (kind, u.length))
    (place : Nat) :
    lexeme place c (u ++ s') = .ok (kind, u.length) := by
  have h := lexed
  unfold startsNumeral at numeric
  simp only [Token.lexeme, numeric, start, Bool.false_eq_true, if_false] at h
  split at h
  case h_1 =>
    split at h
    next text n closed =>
      cases h
      simp [Token.lexeme, start, spread.closeLiteral closed (by decide)]
    next => cases h
  case h_12 =>
    rw [lexeme_less] at lexed ⊢
    -- A single character was not followed by the second one of an operator, and blanks bring
    -- none.
    have equal : u = [] → s.head? ≠ some '=' := by
      rintro rfl head
      rw [List.nil_append, if_pos head] at lexed
      cases lexed
    have greater : u = [] → s.head? ≠ some '>' := by
      rintro rfl head
      rw [List.nil_append, if_neg (equal rfl), if_pos head] at lexed
      cases lexed
    rw [← lexed, if_congr (spread.second (by decide) equal) rfl rfl,
      if_congr (spread.second (by decide) greater) rfl rfl]
  case h_13 =>
    rw [lexeme_greater] at lexed ⊢
    have equal : u = [] → s.head? ≠ some '=' := by
      rintro rfl head
      rw [List.nil_append, if_pos head] at lexed
      cases lexed
    rw [← lexed, if_congr (spread.second (by decide) equal) rfl rfl]
  case h_14 => cases h
  all_goals exact h

/-- A token ends where it did, and is taken for the same if a name that is called still is. -/
theorem Spread.lexeme (spread : Spread s s')
    (lexed : lexeme offset c (u ++ s) = .ok (kind, u.length)) (mark : s.head? ≠ some '!')
    (colon : s.head? ≠ some ':') (called : kind = .function → s'.head? = some '(') (place : Nat) :
    lexeme place c (u ++ s') = .ok (kind, u.length) := by
  rcases lexeme_cases lexed with ⟨start, found⟩ | ⟨start, found⟩ | ⟨numeric, start, -⟩
  · refine (lexeme_eq_numeral_iff ?_).2 (spread.numeral (u := c :: u) found place)
    cases u with
    | nil =>
      by_cases digit : c.isDigit = true
      · simp [startsNumeral, digit]
      · -- A point alone is no numeral.
        obtain ⟨rfl, -⟩ : c = '.' ∧ s.head?.any Char.isDigit = true := by
          simpa [startsNumeral, digit] using start
        obtain ⟨x, -, -, value⟩ := numeral_cases found
        cases value
    | cons d u => exact start
  · exact (lexeme_eq_name_iff start).2
      (spread.name (u := c :: u) found (List.cons_ne_nil c u) mark colon called place)
  · exact spread.symbol numeric start lexed place

/-! ## Blanks between tokens -/

/-- A text with others put in, each in front of the character at its offset, or at the end. -/
def putIn (gap : Nat → List Char) (offset : Nat) : List Char → List Char
  | [] => gap offset
  | c :: s => gap offset ++ c :: putIn gap (offset + c.utf8Size) s

/-- Blanks to put in among the tokens of a text, but not inside one, nor behind the name of a
function. -/
structure Spacing (tokens : List Token) where
  gap : Nat → List Char
  blank : ∀ offset, ∀ c ∈ gap offset, Text.isBlank c = true
  apart : ∀ t ∈ tokens, ∀ offset, t.offset < offset → offset < t.stop → gap offset = []
  called : ∀ t ∈ tokens, t.kind = .function → gap t.stop = []

/-- The text with the blanks put in. -/
def Spacing.apply (g : Spacing tokens) (source : String) : String :=
  String.ofList (putIn g.gap 0 source.toList)

theorem spread_putIn {gap : Nat → List Char}
    (blank : ∀ offset, ∀ c ∈ gap offset, Text.isBlank c = true) (s : List Char) (offset : Nat) :
    Spread s (putIn gap offset s) := by
  have front : ∀ {z s s' : List Char}, (∀ c ∈ z, Text.isBlank c = true) → Spread s s' →
    Spread s (z ++ s') := by
    intro z s s' blank spread
    induction z with
    | nil => exact spread
    | cons c z ih => exact .blank (blank c (by simp)) (ih fun d hd => blank d (by simp [hd]))
  induction s generalizing offset with
  | nil =>
    rw [putIn, ← List.append_nil (gap offset)]
    exact front (blank offset) .nil
  | cons c s ih => exact front (blank offset) (.keep c (ih _))

/-- Where nothing is put in the text stays as it is. -/
theorem putIn_append {gap : Nat → List Char} (s : List Char)
    (none : ∀ place, offset ≤ place → place < offset + width u → gap place = []) :
    putIn gap offset (u ++ s) = u ++ putIn gap (offset + width u) s := by
  induction u generalizing offset with
  | nil => rfl
  | cons c u ih =>
    have some := c.utf8Size_pos
    rw [width_cons] at none ⊢
    rw [List.cons_append, putIn, none offset (Nat.le_refl _) (by omega), ih, List.cons_append,
      Nat.add_assoc]
    · rfl
    · exact fun place after before => none place (by omega) (by omega)

theorem putIn_cons_append {gap : Nat → List Char} (s : List Char)
    (none : ∀ place, offset < place → place < offset + width (c :: u) → gap place = []) :
    putIn gap offset (c :: u ++ s) = gap offset ++
    (c :: u ++ putIn gap (offset + width (c :: u)) s) := by
  have some := c.utf8Size_pos
  rw [width_cons] at none ⊢
  rw [List.cons_append, putIn, putIn_append, ← Nat.add_assoc, List.cons_append]
  exact fun place after before => none place (by omega) (by omega)

/-- No token starts with a mark that stands inside names. -/
theorem Laid.head?_ne (laid : Laid offset s tokens) : s.head? ≠ some '!' ∧ s.head? ≠ some ':' := by
  constructor <;>
  · intro head
    obtain ⟨z, rfl⟩ := List.head?_eq_some_iff.1 head
    obtain ⟨u, z, kind, rest, -, lexed, -⟩ := laid.starts (by decide)
    cases lexed

/-- The tokens of a text stay its tokens when blanks are put in among them. -/
theorem Laid.scans (laid : Laid offset s tokens) (g : Spacing tokens) (place : Nat) :
    Scans place (putIn g.gap offset s) (Formula.words tokens) := by
  induction laid generalizing place with
  | ending offset => exact (scans_blanks (g.blank offset)).2 rfl
  | @blank offset c s tokens blank _ ih =>
    exact sealed_blanks (g.blank offset) _ _ (fun place => (scans_blank blank).2 (ih g _)) place
  | @token offset c u s kind tokens visible lexed rest ih =>
    let behind : Spacing tokens :=
      ⟨g.gap, g.blank, fun t ht => g.apart t (List.mem_cons_of_mem _ ht),
        fun t ht => g.called t (List.mem_cons_of_mem _ ht)⟩
    -- No blanks go into the token, and behind the name of a function none go in either.
    have apart := g.apart _ List.mem_cons_self
    rw [stop_ofList] at apart
    rw [putIn_cons_append s apart]
    refine sealed_blanks (g.blank offset) _ _ (fun place =>
      scans_token visible ?_ (ih behind)) place
    have spread : Spread s (putIn g.gap (offset + width (c :: u)) s) := spread_putIn g.blank s _
    refine spread.lexeme lexed rest.head?_ne.1 rest.head?_ne.2 (fun function => ?_) place
    have called := g.called _ List.mem_cons_self function
    subst function
    obtain ⟨z, opening⟩ := exists_leftParen_of_lexeme lexed
    rw [List.drop_left] at opening
    rw [stop_ofList] at called
    rw [opening, putIn, called]
    rfl

end Token

namespace Formula

/-- **White space between tokens does not count.** Whatever blanks are put in among the tokens of
a formula, in front and behind, the formula spells the same tree, as long as the name of a
function keeps its parenthesis. -/
theorem parse_spaced {source : String} {e : Expr} (plain : source.toList.head? ≠ some '=')
    (parsed : parse source = .ok e) :
    ∃ tokens, Token.scan source = .ok tokens ∧ ∀ g : Token.Spacing tokens,
    parse (g.apply source) = .ok e := by
  obtain ⟨ws, ⟨tokens, scanned, rfl⟩, spells⟩ := parse_eq_ok_iff.1 parsed
  rw [body_eq_self plain] at scanned
  refine ⟨tokens, scanned, fun g => ?_⟩
  have laid : Token.Laid 0 source.toList tokens := Token.scanFrom_eq_ok_iff.1 scanned
  have plain' : (g.apply source).toList.head? ≠ some '=' := by
    rw [Token.Spacing.apply, String.toList_ofList]
    exact (Token.spread_putIn g.blank _ _).head?_ne plain (by decide +kernel)
  rw [parse_eq_ok_iff, body_eq_self plain', Token.Spacing.apply, String.toList_ofList]
  exact ⟨_, laid.scans g 0, spells⟩

/-- Blanks go in front of the formula, between its tokens and behind it, and not into the text or
the range. -/
theorem parse_spaced_of_call :
    ∃ e, parse "sum(A1:B2,\"a b\")<=-1.5e3" = .ok e ∧
      parse " \tsum( \tA1:B2 \t, \t\"a b\") \t<=- \t1.5e3 \t" = .ok e ∧
      e.print = "SUM(A1:B2, \"a b\") <= -1500" := by
  let source := "sum(A1:B2,\"a b\")<=-1.5e3"
  let tokens : List Token :=
    [⟨.function, "sum", 0⟩, ⟨.leftParen, "(", 3⟩, ⟨.range, "A1:B2", 4⟩, ⟨.comma, ",", 9⟩,
    ⟨.text "a b", "\"a b\"", 10⟩, ⟨.rightParen, ")", 15⟩, ⟨.operator .lessEqual, "<=", 16⟩,
    ⟨.operator .subtract, "-", 18⟩, ⟨.number 1500, "1.5e3", 19⟩, ⟨.eof, "", 24⟩]
  let places := [0, 4, 9, 10, 16, 19, 24]
  let gap (place : Nat) : List Char := if place ∈ places then [' ', '\t'] else []
  have free : ∀ t ∈ tokens, ∀ place ∈ places, ¬ (t.offset < place ∧ place < t.stop) := by
    decide +kernel
  have called : ∀ t ∈ tokens, t.kind = .function → t.stop ∉ places := by decide +kernel
  have blank : [' ', '\t'].all Text.isBlank = true := by decide +kernel
  let g : Token.Spacing tokens :=
    { gap
      blank := fun place c hc => by
        dsimp only [gap] at hc
        split at hc
        · exact List.all_eq_true.1 blank c hc
        · cases hc
      apart :=
        fun t ht place after before => if_neg fun here => free t ht place here ⟨after, before⟩
      called := fun t ht function => if_neg (called t ht function) }
  have spaced : String.ofList (Token.putIn gap 0 source.toList) =
    " \tsum( \tA1:B2 \t, \t\"a b\") \t<=- \t1.5e3 \t" := by
    decide +kernel
  have scanned : Token.scan source = .ok tokens := by decide +kernel
  have printed : normalize source = .ok "SUM(A1:B2, \"a b\") <= -1500" := by decide +kernel
  cases parsed : parse source with
  | error fault =>
    rw [normalize, parsed] at printed
    cases printed
  | ok e =>
    rw [normalize, parsed] at printed
    obtain ⟨tokens', scanned', same⟩ := parse_spaced (by decide +kernel) parsed
    cases scanned.symm.trans scanned'
    exact ⟨e, rfl, spaced ▸ same g, Except.ok.inj printed⟩

end Formula

end Spreadsheet
