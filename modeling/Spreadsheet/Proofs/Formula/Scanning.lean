import Spreadsheet.Proofs.Formula.Grammar
import Spreadsheet.Proofs.Text.Characters
import Spreadsheet.Proofs.Text.Run

/-!
# `Proofs/Formula/Scanning.lean` — the words of a text

`Scans offset s ws`: a text at an offset falls into words. It does so token by token
(`scans_cons_iff`).

Blanks behind a text make no difference to its words, and none to whether it has any
(`scans_append_blanks`). They do make a difference to the faults that are found. So the lemmas on
the way there speak of success only (`Agrees`).
-/

set_option autoImplicit false

namespace Spreadsheet

namespace Token

variable {offset : Nat} {s z : List Char}

/-! ## Runs -/

theorem digitRun_le (s : List Char) : digitRun s ≤ s.length := Text.length_takeWhile_le _ s

theorem nameRun_le (s : List Char) : nameRun s ≤ s.length := Text.length_takeWhile_le _ s

theorem digitRun_append (stops : Text.StopsAt Char.isDigit z) : digitRun (s ++ z) = digitRun s := by
  unfold digitRun
  rw [Text.takeWhile_append stops]

theorem nameRun_append (stops : Text.StopsAt isNameChar z) : nameRun (s ++ z) = nameRun s := by
  unfold nameRun
  rw [Text.takeWhile_append stops]

theorem digitRun_append_eq_iff :
    digitRun (s ++ z) = s.length ↔ (∀ c ∈ s, c.isDigit = true) ∧ Text.StopsAt Char.isDigit z :=
  Text.length_takeWhile_append_eq_iff

theorem digitRun_eq_zero_iff : digitRun s = 0 ↔ Text.StopsAt Char.isDigit s := by
  simpa using digitRun_append_eq_iff (s := []) (z := s)

theorem exponentLength_of_no_letter {e : Char} (other : ¬ (e = 'e' ∨ e = 'E')) (s : List Char) :
    exponentLength (e :: s) = 0 := by
  simp [exponentLength, other]

theorem exponentLength_singleton (e : Char) : exponentLength [e] = 0 := by
  simp [exponentLength]

theorem exponentLength_of_sign {e sign : Char} (letter : e = 'e' ∨ e = 'E')
    (signed : sign = '+' ∨ sign = '-') (s : List Char) :
    exponentLength (e :: sign :: s) = if digitRun s = 0 then 0 else 2 + digitRun s := by
  simp [exponentLength, letter, signed]

theorem exponentLength_of_no_sign {e c : Char} (letter : e = 'e' ∨ e = 'E')
    (unsigned : ¬ (c = '+' ∨ c = '-')) (s : List Char) :
    exponentLength (e :: c :: s) = if digitRun (c :: s) = 0 then 0 else 1 + digitRun (c :: s) := by
  simp [exponentLength, letter, unsigned]

/-! ## Words -/

/-- A text falls into words. -/
def Scans (offset : Nat) (s : List Char) (ws : List Word) : Prop :=
  ∃ tokens, scanFrom offset s = .ok tokens ∧ Formula.words tokens = ws

theorem scans_nil {ws : List Word} : Scans offset [] ws ↔ ws = [Word.plain .eof] := by
  unfold Scans
  rw [scanFrom]
  constructor
  · rintro ⟨tokens, found, rfl⟩
    cases found
    rfl
  · rintro rfl
    exact ⟨_, rfl, rfl⟩

/-- A blank is no word. -/
theorem scans_blank {c : Char} {ws : List Word} (blank : Text.isBlank c = true) :
    Scans offset (c :: s) ws ↔ Scans (offset + c.utf8Size) s ws := by
  unfold Scans
  rw [scanFrom, if_pos blank]

/-- Any other character starts one. -/
theorem scans_cons_iff {c : Char} {ws : List Word} (visible : Text.isBlank c = false) :
    Scans offset (c :: s) ws ↔ ∃ kind n more, lexeme offset c s = .ok (kind, n) ∧
      Scans (offset + width (c :: s.take n)) (s.drop n) more ∧
      ws = Token.word ⟨kind, String.ofList (c :: s.take n), offset⟩ :: more := by
  unfold Scans
  rw [scanFrom, if_neg (by simp [visible])]
  constructor
  · rintro ⟨tokens, found, rfl⟩
    split at found
    next => cases found
    next kind n lexed =>
      dsimp only at found
      split at found
      next => cases found
      next tokens rest =>
        cases found
        exact ⟨kind, n, _, lexed, ⟨tokens, rest, rfl⟩, rfl⟩
  · rintro ⟨kind, n, more, lexed, ⟨tokens, rest, rfl⟩, rfl⟩
    simp only [lexed, rest]
    exact ⟨_, rfl, rfl⟩

/-! ## Agreement -/

/-- Two attempts agree if they succeed alike. They may fail for different reasons. -/
def Agrees {α : Type} (a b : Except SyntaxError α) : Prop := ∀ r, a = .ok r ↔ b = .ok r

namespace Agrees

variable {α β : Type} {a b : Except SyntaxError α}

theorem refl (a : Except SyntaxError α) : Agrees a a := fun _ => .rfl

theorem of_eq (h : a = b) : Agrees a b := h ▸ refl a

theorem of_errors {e e' : SyntaxError} : Agrees (.error e : Except SyntaxError α) (.error e') :=
  fun _ => iff_of_false nofun nofun

/-- Attempts that agree succeed with the same or fail both. -/
theorem cases (h : Agrees a b) :
    (∃ r, a = .ok r ∧ b = .ok r) ∨ ∃ e e', a = .error e ∧ b = .error e' := by
  cases b with
  | ok r => exact .inl ⟨r, (h r).2 rfl, rfl⟩
  | error e' =>
    cases a with
    | ok r => cases (h r).1 rfl
    | error e => exact .inr ⟨e, e', rfl, rfl⟩

theorem map {f : α → β} (h : Agrees a b) : Agrees (a.map f) (b.map f) := by
  rcases h.cases with ⟨r, rfl, rfl⟩ | ⟨e, e', rfl, rfl⟩
  · exact refl _
  · exact of_errors

end Agrees

/-! ## Blanks behind a text -/

/-- What stands before the end of a text stays what it is when something is put behind. -/
theorem drop_append_of_le {n : Nat} (h : n ≤ s.length) : (s ++ z).drop n = s.drop n ++ z :=
  List.drop_append_of_le_length h

theorem take_append_of_le {n : Nat} (h : n ≤ s.length) : (s ++ z).take n = s.take n :=
  List.take_append_of_le_length h

theorem mantissaLength_le (s : List Char) : mantissaLength s ≤ s.length := by
  have whole := digitRun_le s
  unfold mantissaLength
  dsimp only
  split
  next fraction h =>
    have length := congrArg List.length h
    have := digitRun_le fraction
    simp only [List.length_drop, List.length_cons] at length
    omega
  next => exact whole

theorem exponentLength_le (s : List Char) : exponentLength s ≤ s.length := by
  unfold exponentLength
  split
  next e rest =>
    split
    · split
      next c digits =>
        have := digitRun_le digits
        have := digitRun_le (c :: digits)
        simp only [List.length_cons] at *
        split
        · split <;> omega
        · split <;> omega
      next => simp
    · simp
  next => simp

theorem mantissaLength_append (stops : Text.StopsAt Char.isDigit z) (point : z.head? ≠ some '.') :
    mantissaLength (s ++ z) = mantissaLength s := by
  unfold mantissaLength
  simp only [digitRun_append stops, drop_append_of_le (digitRun_le s)]
  -- The point, if there is one, was in the text before, since what follows has none.
  cases h : s.drop (digitRun s) with
  | nil =>
    cases z with
    | nil => rfl
    | cons c z =>
      simp only [List.nil_append]
      split
      next h => simp_all
      next => rfl
  | cons c fraction =>
    by_cases hc : c = '.'
    · subst hc
      simp only [List.cons_append, digitRun_append stops]
    · simp [hc]

theorem bareNameLength_le (s : List Char) : bareNameLength s ≤ s.length := by
  have sheet := nameRun_le s
  unfold bareNameLength
  dsimp only
  split
  next rest h =>
    have length := congrArg List.length h
    have := nameRun_le rest
    simp only [List.length_drop, List.length_cons] at length
    omega
  next => exact sheet

theorem closeLiteral_le {mark : Char} {text : List Char} {n : Nat}
    (h : closeLiteral mark s = some (text, n)) :
    n ≤ s.length := by
  fun_induction closeLiteral mark s generalizing text n with
  | case1 | case3 => cases h
  | case2 | case5 =>
    cases h
    simp
  | case4 rest ih | case6 _ _ _ _ ih =>
    obtain ⟨⟨text', n'⟩, found, eq⟩ := Option.map_eq_some_iff.1 h
    cases eq
    have := ih found
    simp only [List.length_cons] at *
    omega

theorem nameLength_le {n : Nat} (h : nameLength offset s = .ok n) : n ≤ s.length := by
  unfold nameLength at h
  split at h
  next rest =>
    split at h
    next => cases h
    next text m closed =>
      have := closeLiteral_le closed
      dsimp only at h
      split at h
      next behind start =>
        cases h
        have := bareNameLength_le (rest.drop m)
        simp only [List.length_drop, List.length_cons] at *
        omega
      next => cases h
      next => cases h
  next =>
    cases h
    exact bareNameLength_le s

theorem closeLiteral_eq_none {mark : Char} (h : mark ∉ s) : closeLiteral mark s = none := by
  fun_induction closeLiteral mark s with
  | case1 => rfl
  | case2 => simp at h
  | case3 => rfl
  | case4 | case5 => simp at h
  | case6 c d rest _ ih => rw [ih (by simp_all), Option.map_none]

/-- What is behind a literal that has no mark in it neither closes it nor doubles its closing
mark. -/
theorem closeLiteral_append {mark : Char} (h : mark ∉ z) :
    closeLiteral mark (s ++ z) = closeLiteral mark s := by
  fun_induction closeLiteral mark s with
  | case1 => exact closeLiteral_eq_none h
  | case2 =>
    cases z with
    | nil => simp [closeLiteral]
    | cons d z =>
      have hd : d ≠ mark := fun eq => h (by simp [eq])
      simp [closeLiteral, hd]
  | case3 c hc => exact closeLiteral_eq_none (by simp_all [eq_comm])
  | case4 rest ih => simp [closeLiteral, ih]
  | case5 d rest hd => simp [closeLiteral, hd]
  | case6 c d rest hc ih =>
    rw [List.cons_append] at ih
    simp [closeLiteral, hc, ih]

section
variable (blank : ∀ c ∈ z, Text.isBlank c = true)
include blank

theorem stopsAt_of_blank {p : Char → Bool} (h : ∀ c, Text.isBlank c = true → p c = false) :
    Text.StopsAt p z :=
  fun c hc => h c (blank c (List.mem_of_mem_head? hc))

theorem head?_ne_of_blank {c : Char}
    (h : c ∈ ['.', 'e', 'E', '+', '-', '!', ':', '(', '\'', '"', '=', '>']) :
    z.head? ≠ some c :=
  fun hc => (Text.blank_breaks (blank c (List.mem_of_mem_head? hc))).2.2.2.2 h

theorem not_mem_of_blank {c : Char}
    (h : c ∈ ['.', 'e', 'E', '+', '-', '!', ':', '(', '\'', '"', '=', '>']) : c ∉ z :=
  fun hc => (Text.blank_breaks (blank c hc)).2.2.2.2 h

theorem exponentLength_append : exponentLength (s ++ z) = exponentLength s := by
  have stops := stopsAt_of_blank blank fun c h => (Text.blank_breaks h).1
  cases s with
  | nil =>
    cases z with
    | nil => rfl
    | cons c z =>
      -- A blank is neither the letter, nor a sign, nor a digit, so no exponent comes about.
      have notE := head?_ne_of_blank (c := 'e') blank (by simp)
      have notE' := head?_ne_of_blank (c := 'E') blank (by simp)
      simp_all [exponentLength]
  | cons e rest =>
    cases rest with
    | nil =>
      cases z with
      | nil => rfl
      | cons c z =>
        have notPlus := head?_ne_of_blank (c := '+') blank (by simp)
        have notMinus := head?_ne_of_blank (c := '-') blank (by simp)
        have none : digitRun (c :: z) = 0 := by simp [digitRun, Text.stopsAt_cons.1 stops]
        simp_all [exponentLength]
    | cons c digits =>
      have longer := digitRun_append (s := c :: digits) stops
      simp only [List.cons_append] at longer
      simp [exponentLength, digitRun_append stops, longer]

theorem numeral_append (offset : Nat) (s : List Char) :
    numeral offset (s ++ z) = numeral offset s := by
  have stops := stopsAt_of_blank blank fun c h => (Text.blank_breaks h).1
  have notPoint := head?_ne_of_blank (c := '.') blank (by simp)
  have mantissa := mantissaLength_append (s := s) stops notPoint
  have behind := drop_append_of_le (z := z) (mantissaLength_le s)
  have head : (s.drop (mantissaLength s) ++ z).head? = some '.' ↔
    (s.drop (mantissaLength s)).head? = some '.' := by
    cases s.drop (mantissaLength s) with
    | nil => simp [notPoint]
    | cons c rest => simp
  have short : mantissaLength s + exponentLength (s.drop (mantissaLength s)) ≤ s.length := by
    have mantissa := mantissaLength_le s
    have exponent := exponentLength_le (s.drop (mantissaLength s))
    rw [List.length_drop] at exponent
    omega
  unfold numeral
  simp only [mantissa, behind, head, exponentLength_append blank, take_append_of_le short]

theorem bareNameLength_append (s : List Char) : bareNameLength (s ++ z) = bareNameLength s := by
  have stops := stopsAt_of_blank blank fun c h => (Text.blank_breaks h).2.1
  have notMark := head?_ne_of_blank (c := '!') blank (by simp)
  unfold bareNameLength
  simp only [nameRun_append stops, drop_append_of_le (nameRun_le s)]
  cases s.drop (nameRun s) with
  | nil =>
    cases z with
    | nil => rfl
    | cons c z => simp_all
  | cons c rest =>
    by_cases hc : c = '!'
    · subst hc
      simp only [List.cons_append, nameRun_append stops]
    · simp [hc]

theorem nameLength_append (offset : Nat) (s : List Char) :
    Agrees (nameLength offset (s ++ z)) (nameLength offset s) := by
  have notMark := head?_ne_of_blank (c := '!') blank (by simp)
  have notApostrophe := head?_ne_of_blank (c := '\'') blank (by simp)
  have bare : ∀ s : List Char, s.head? ≠ some '\'' →
    nameLength offset s = .ok (bareNameLength s) := by
    intro s h
    unfold nameLength
    split
    next => simp at h
    next => rfl
  by_cases quoted : s.head? = some '\''
  · obtain ⟨rest, rfl⟩ := List.head?_eq_some_iff.1 quoted
    simp only [nameLength, List.cons_append,
      closeLiteral_append (not_mem_of_blank blank (c := '\'') (by simp))]
    -- An apostrophe that is not closed is not closed by blanks either; both fail, at other
    -- places.
    cases closed : closeLiteral '\'' rest with
    | none => exact .of_errors
    | some found =>
      obtain ⟨text, n⟩ := found
      simp only [drop_append_of_le (z := z) (closeLiteral_le closed), bareNameLength_append blank]
      cases rest.drop n with
      | nil =>
        cases z with
        | nil => exact .of_errors
        | cons c z =>
          simp only [List.nil_append]
          split
          next h => simp_all
          next => exact .of_errors
          next => exact .of_errors
      | cons c more =>
        by_cases hc : c = '!'
        · subst hc
          exact .refl _
        · simp [Agrees.of_errors]
  · rw [bare s quoted, bare (s ++ z), bareNameLength_append blank]
    · exact .refl _
    · cases s with
      | nil => exact notApostrophe
      | cons c s => exact quoted

theorem classify_append (text behind : List Char) :
    classify text (behind ++ z) = classify text behind := by
  have notParen := head?_ne_of_blank (c := '(') blank (by simp)
  have head : (behind ++ z).head? = some '(' ↔ behind.head? = some '(' := by
    cases behind with
    | nil => simp [notParen]
    | cons c behind => simp
  unfold classify
  simp only [head]

theorem name_append (offset : Nat) (s : List Char) :
    Agrees (name offset (s ++ z)) (name offset s) := by
  have notColon := head?_ne_of_blank (c := ':') blank (by simp)
  have notCorner := stopsAt_of_blank blank fun c h => (Text.blank_breaks h).2.2.2.1
  unfold name
  rcases (nameLength_append blank offset s).cases with ⟨n, h, h'⟩ | ⟨e, e', h, h'⟩
  · have short := nameLength_le h'
    simp only [h, h', take_append_of_le short, drop_append_of_le short, classify_append blank]
    split
    · cases s.drop n with
      | nil =>
        cases z with
        | nil => exact .refl _
        | cons c z =>
          simp only [List.nil_append]
          split
          next h => simp_all
          next => exact .refl _
      | cons c more =>
        -- Only behind a colon is more looked for.
        by_cases hc : c = ':'
        · subst hc
          cases more with
          | nil =>
            cases z with
            | nil => exact .refl _
            | cons d z => simp [Text.stopsAt_cons.1 notCorner, Agrees.refl]
          | cons d more =>
            simp only [List.cons_append]
            split
            · -- A second corner may or may not follow, and is looked for alike.
              rcases (nameLength_append blank (offset + width (s.take n) + 1)
                (d :: more)).cases with
                ⟨m, h, h'⟩ | ⟨e, e', h, h'⟩
              · rw [List.cons_append] at h
                have corner := take_append_of_le (z := z) (nameLength_le h')
                rw [List.cons_append] at corner
                simp only [h, h', corner]
                exact .refl _
              · rw [List.cons_append] at h
                simp only [h, h']
                exact .of_errors
            · exact .refl _
        · simp [hc, Agrees.refl]
    · exact .refl _
  · simp only [h, h']
    exact .of_errors

theorem lexeme_append (offset : Nat) (c : Char) (s : List Char) :
    Agrees (lexeme offset c (s ++ z)) (lexeme offset c s) := by
  have notDigit := stopsAt_of_blank blank fun c h => (Text.blank_breaks h).1
  have notEqual := head?_ne_of_blank (c := '=') blank (by simp)
  have notGreater := head?_ne_of_blank (c := '>') blank (by simp)
  have first : (s ++ z).head?.any Char.isDigit = s.head?.any Char.isDigit := by
    cases s with
    | nil =>
      cases z with
      | nil => rfl
      | cons c z => simp [Text.stopsAt_cons.1 notDigit]
    | cons c s => rfl
  unfold lexeme
  simp only [first]
  split
  · rw [← List.cons_append, numeral_append blank]
    exact .refl _
  split
  · rw [← List.cons_append]
    exact (name_append blank offset (c :: s)).map
  split
  all_goals try exact .refl _
  · rw [closeLiteral_append (not_mem_of_blank blank (by simp))]
    exact .refl _
  -- A second character of an operator is no blank.
  all_goals
    refine .of_eq ?_
    cases s with
    | nil =>
      cases z with
      | nil => rfl
      | cons d z => simp_all
    | cons d s =>
      simp only [List.cons_append]
      by_cases equal : d = '='
      · simp [equal]
      · by_cases greater : d = '>'
        · simp [greater]
        · simp [equal, greater]

end

theorem numeral_le {kind : Kind} {n : Nat} (h : numeral offset s = .ok (kind, n)) :
    n ≤ s.length := by
  have mantissa := mantissaLength_le s
  have exponent := exponentLength_le (s.drop (mantissaLength s))
  rw [List.length_drop] at exponent
  unfold numeral at h
  dsimp only at h
  split at h
  next => cases h
  next =>
    split at h
    next =>
      split at h
      next =>
        cases h
        omega
      next => cases h
    next => cases h

/-- A name is taken for a cell, for a range if a second corner follows, or for what its text and a
parenthesis say. -/
theorem name_cases {kind : Kind} {n : Nat} (h : name offset s = .ok (kind, n)) :
    ∃ m, nameLength offset s = .ok m ∧
      (isCellShaped (s.take m) = true ∧ kind = .cell ∧ n = m ∨
        isCellShaped (s.take m) = true ∧ kind = .range ∧
          (∃ c rest offset' m', s.drop m = ':' :: c :: rest ∧ startsCorner c = true ∧
            nameLength offset' (c :: rest) = .ok m' ∧ isCellShaped ((c :: rest).take m') = true ∧
            n = m + 1 + m') ∨
        isCellShaped (s.take m) = false ∧ kind = classify (s.take m) (s.drop m) ∧ n = m) := by
  unfold name at h
  split at h
  next => cases h
  next m found =>
    refine ⟨m, found, ?_⟩
    dsimp only at h
    split at h
    next shaped =>
      split at h
      next c rest behind =>
        split at h
        next corner =>
          split at h
          next => cases h
          next m' found' =>
            split at h
            next shaped' =>
              cases h
              exact .inr (.inl ⟨shaped, rfl, c, rest, _, m', behind, corner, found', shaped', rfl⟩)
            next =>
              cases h
              exact .inl ⟨shaped, rfl, rfl⟩
        next =>
          cases h
          exact .inl ⟨shaped, rfl, rfl⟩
      next =>
        cases h
        exact .inl ⟨shaped, rfl, rfl⟩
    next shapeless =>
      cases h
      exact .inr (.inr ⟨by simpa using shapeless, rfl, rfl⟩)

theorem name_le {kind : Kind} {n : Nat} (h : name offset s = .ok (kind, n)) : n ≤ s.length := by
  obtain ⟨m, found, ⟨-, -, rfl⟩ | ⟨-, -, c, rest, _, m', behind, -, found', -, rfl⟩ |
    ⟨-, -, rfl⟩⟩ := name_cases h
  · exact nameLength_le found
  · have length := congrArg List.length behind
    have second := nameLength_le found'
    simp only [List.length_drop, List.length_cons] at length second
    omega
  · exact nameLength_le found

theorem lexeme_le {c : Char} {kind : Kind} {n : Nat} (h : lexeme offset c s = .ok (kind, n)) :
    n ≤ s.length := by
  -- Numerals and names count their first character, which is not among the rest.
  have beyond : ∀ {found : Except SyntaxError (Kind × Nat)},
      (∀ kind n, found = .ok (kind, n) → n ≤ (c :: s).length) →
        found.map (fun r => (r.1, r.2 - 1)) = .ok (kind, n) → n ≤ s.length := by
    intro found short h
    cases found with
    | error e => cases h
    | ok r =>
      have short := short r.1 r.2 rfl
      rw [List.length_cons] at short
      cases h
      omega
  unfold lexeme at h
  dsimp only at h
  split at h
  · exact beyond (fun _ _ => numeral_le) h
  split at h
  · exact beyond (fun _ _ => name_le) h
  split at h
  case h_1 =>
    split at h
    next closed =>
      cases h
      exact closeLiteral_le closed
    next => cases h
  case h_12 | h_13 => split at h <;> cases h <;> simp
  case h_14 => cases h
  all_goals
    cases h
    exact Nat.zero_le _

theorem scans_blanks {ws : List Word} (blank : ∀ c ∈ z, Text.isBlank c = true) :
    Scans offset z ws ↔ ws = [Word.plain .eof] := by
  induction z generalizing offset with
  | nil => exact scans_nil
  | cons c z ih =>
    rw [scans_blank (blank c (by simp))]
    exact ih fun d hd => blank d (by simp [hd])

/-- Blanks behind a text make no difference to its words. -/
theorem scans_append_blanks (blank : ∀ c ∈ z, Text.isBlank c = true) {offset : Nat} {s : List Char}
    {ws : List Word} :
    Scans offset (s ++ z) ws ↔ Scans offset s ws := by
  induction hs : s.length using Nat.strongRecOn generalizing offset s ws with
  | ind length ih =>
    cases s with
    | nil =>
      rw [List.nil_append, scans_blanks blank, scans_nil]
    | cons c s =>
      rw [List.length_cons] at hs
      rw [List.cons_append]
      cases hc : Text.isBlank c with
      | true =>
        rw [scans_blank hc, scans_blank hc]
        exact ih s.length (by omega) rfl
      | false =>
        rw [scans_cons_iff hc, scans_cons_iff hc]
        -- The first token is the same, and what is behind it is shorter.
        refine exists_congr fun kind => exists_congr fun n => exists_congr fun more => ?_
        rw [lexeme_append blank offset c s (kind, n)]
        refine and_congr_right fun lexed => ?_
        have short := lexeme_le lexed
        have shorter : (s.drop n).length < length := by
          rw [List.length_drop]
          omega
        rw [take_append_of_le short, drop_append_of_le short, ih _ shorter rfl]

end Token

/-! ## Formulas -/

namespace Formula

/-- Words spell a tree, up to the end of the formula. -/
def Spells (ws : List Word) (e : Expr) : Prop :=
  Reads (.level 0) ws [e] [] ∨ ∃ more, Reads (.level 0) ws [e] (Word.plain .eof :: more)

theorem toList_body (source : String) :
    (body source).toList = match source.toList with | '=' :: rest => rest | s => s := by
  unfold body
  cases h : source.toList with
  | nil => exact h
  | cons c rest => grind [String.toList_ofList]

theorem body_eq_self {s : String} (plain : s.toList.head? ≠ some '=') : body s = s := by
  unfold body
  split
  next h => simp [h] at plain
  next => rfl

/-- A formula's text spells a tree if the words of its body do. -/
theorem parse_eq_ok_iff {source : String} {e : Expr} :
    parse source = .ok e ↔ ∃ ws, Token.Scans 0 (body source).toList ws ∧ Spells ws e := by
  unfold parse Token.Scans Token.scan
  constructor
  · intro h
    split at h
    next => cases h
    next tokens found => exact ⟨_, ⟨tokens, found, rfl⟩, ofTokens_eq_ok_iff.1 h⟩
  · rintro ⟨ws, ⟨tokens, found, rfl⟩, spells⟩
    rw [found]
    exact ofTokens_eq_ok_iff.2 spells

/-- No tree is spelled by words that start with an equals sign. -/
theorem not_spells_equals {offset : Nat} {s : List Char} {ws : List Word} {e : Expr}
    (scans : Token.Scans offset ('=' :: s) ws) : ¬ Spells ws e := by
  rw [Token.scans_cons_iff (by decide)] at scans
  obtain ⟨kind, n, more, lexed, -, rfl⟩ := scans
  have equal : Token.lexeme offset '=' s = .ok (.operator .equal, 0) := by
    have plain : Token.startsName '=' = false := by decide
    simp [Token.lexeme, plain]
  rw [equal] at lexed
  cases lexed
  rintro (reads | ⟨_, reads⟩) <;> obtain ⟨w, _, start, starts⟩ := reads.head <;> cases start <;>
    cases starts

/-- A body is trimmed by trimming the text that it is the body of. -/
theorem body_append (s : List Char) :
    ∃ z, (body (String.ofList s)).toList = (body (String.ofList (Text.trimEnd s))).toList ++ z ∧
      ∀ c ∈ z, Text.isBlank c = true := by
  simp only [toList_body, String.toList_ofList]
  obtain ⟨z, cut, blank⟩ := Text.trimEnd_append s
  by_cases equal : ∃ rest, s = '=' :: rest
  · obtain ⟨rest, rfl⟩ := equal
    rw [Text.trimEnd_cons (by decide)]
    exact Text.trimEnd_append rest
  · refine ⟨z, ?_, blank⟩
    -- Trimming at the end does not touch the equals sign in front.
    have plain : ∀ t : List Char, (¬ ∃ rest, t = '=' :: rest) →
      (match t with | '=' :: rest => rest | t => t) = t := by
      intro t h
      split
      next rest => exact absurd ⟨rest, rfl⟩ h
      next => rfl
    rw [plain s equal, plain (Text.trimEnd s), ← cut]
    rintro ⟨rest, h⟩
    rw [h] at cut
    exact equal ⟨rest ++ z, cut⟩

/-- Blanks at the end of a formula do not count. -/
theorem parse_trimEnd (s : List Char) {e : Expr} :
    parse (String.ofList (Text.trimEnd s)) = .ok e ↔ parse (String.ofList s) = .ok e := by
  obtain ⟨z, cut, blank⟩ := body_append s
  rw [parse_eq_ok_iff, parse_eq_ok_iff, cut]
  exact exists_congr fun ws => and_congr_left fun _ => (Token.scans_append_blanks blank).symm

end Formula

end Spreadsheet
