import Spreadsheet.Formula.Printer
import Spreadsheet.Proofs.Address.ReadBack
import Spreadsheet.Proofs.Formula.Names

/-!
# `Proofs/Formula/Pieces.lean` — the words of what is written down

A formula is written piece by piece. Each piece falls into words of its own, either whatever
stands behind it (`Sealed`) or if what stands there can follow an operand (`Chunk`), so that
pieces can be put together. The literals, references and names of a formula are one word each, and
that word means what was written.

For a literal this is the text of the number or of the string, for a reference the text of the
address or the range, and for a name the name itself. A numeral is the delicate one: it is read by
counting digits twice, and it must not go on with a point or an exponent that belongs to what
follows (`chunk_number`).
-/

set_option autoImplicit false

namespace Spreadsheet

/-! ## Numerals without an exponent -/

namespace Decimal

/-- The text of a number has no exponent, and spells that number. -/
structure ReadsBack (x : Float) : Prop where
  plain : ∀ c ∈ (text x).toList, c.isDigit = true ∨ c = '.'
  value : (numeral? (text x).toList).map Scaled.toFloat = some x

instance (x : Float) : Decidable (ReadsBack x) :=
  decidable_of_iff (((text x).toList.all fun c => c.isDigit || c == '.') = true ∧
      (numeral? (text x).toList).map Scaled.toFloat = some x)
    ⟨fun h => ⟨by simpa using h.1, h.2⟩, fun h => ⟨by simpa using h.plain, h.value⟩⟩

/-- Of digits and points none are an exponent. -/
theorem eq_nil_of_exponent? {s : List Char} {e : Int} (plain : ∀ c ∈ s, c.isDigit = true ∨ c = '.')
    (h : exponent? s = some e) : s = [] := by
  cases s with
  | nil => rfl
  | cons c s =>
    have letter : ¬ (c = 'e' ∨ c = 'E') := by
      rintro (rfl | rfl) <;> exact absurd (plain _ List.mem_cons_self) (by decide)
    simp [exponent?, letter] at h

/-- A numeral without an exponent is digits, with at most one point among them or at either end. -/
theorem split_numeral? {s : List Char} {m : Scaled} (plain : ∀ c ∈ s, c.isDigit = true ∨ c = '.')
    (h : numeral? s = some m) :
    ∃ whole fraction, (∀ c ∈ whole, c.isDigit = true) ∧ (∀ c ∈ fraction, c.isDigit = true) ∧
      (s = whole ∧ whole ≠ [] ∨ s = whole ++ '.' :: fraction ∧ (whole ≠ [] ∨ fraction ≠ [])) := by
  unfold numeral? spanDigits at h
  simp only [List.span_eq_takeWhile_dropWhile] at h
  have cut := List.takeWhile_append_dropWhile (p := Char.isDigit) (l := s)
  refine ⟨s.takeWhile Char.isDigit, ?_⟩
  cases behind : s.dropWhile Char.isDigit with
  | nil =>
    rw [behind] at h cut
    rw [List.append_nil] at cut
    refine ⟨[], fun _ => List.mem_takeWhile_imp, by simp, .inl ⟨cut.symm, fun empty => ?_⟩⟩
    simp [empty] at h
  | cons d rest =>
    rw [behind] at h cut
    have plain' : ∀ c ∈ d :: rest, c.isDigit = true ∨ c = '.' :=
      fun c hc => plain c (cut ▸ List.mem_append_right _ hc)
    split at h
    next rest point =>
      cases point
      split at h
      next => cases h
      next some =>
        obtain ⟨e, found, -⟩ := Option.map_eq_some_iff.1 h
        -- An exponent would have a letter in it, so nothing is left behind the fraction.
        have nothing : rest.dropWhile Char.isDigit = [] :=
          eq_nil_of_exponent?
            (fun c hc => plain' c (List.mem_cons_of_mem _ ((List.dropWhile_suffix _).mem hc))) found
        have fraction := List.takeWhile_append_dropWhile (p := Char.isDigit) (l := rest)
        rw [nothing, List.append_nil] at fraction
        refine ⟨rest.takeWhile Char.isDigit, fun _ => List.mem_takeWhile_imp,
          fun _ => List.mem_takeWhile_imp, .inr ⟨?_, not_and_or.1 some⟩⟩
        rw [fraction, cut]
    next =>
      split at h
      next => cases h
      next =>
        obtain ⟨e, found, -⟩ := Option.map_eq_some_iff.1 h
        cases eq_nil_of_exponent? plain' found

end Decimal

namespace Token

variable {offset n : Nat} {s t u z : List Char} {ws vs zs : List Word} {kind : Kind} {c : Char}

/-! ## Lexemes that are numerals or names -/

theorem not_digit_of_startsName (start : startsName c = true) : c.isDigit = false ∧ c ≠ '.' := by
  constructor
  · have all : (Text.ascii.all fun c => !c.isDigit || !startsName c) = true := by decide
    refine Bool.eq_false_iff.2 fun digit => ?_
    have holds := Text.of_ascii all (Text.toNat_lt_of_isAlphanum (Text.isAlphanum_of_isDigit digit))
    simp [digit, start] at holds
  · rintro rfl
    exact absurd start (by decide)

/-- A numeral has no second point behind its digits, and spells a number that is finite. -/
theorem numeral_eq_ok_iff : numeral offset s = .ok (kind, n) ↔
    (s.drop (mantissaLength s)).head? ≠ some '.' ∧
      mantissaLength s + exponentLength (s.drop (mantissaLength s)) = n ∧
      ∃ x, kind = .number x ∧ x.isFinite = true ∧
      (Decimal.numeral? (s.take n)).map Decimal.Scaled.toFloat = some x := by
  unfold numeral
  dsimp only
  constructor
  · intro h
    split at h
    next => cases h
    next single =>
      split at h
      next x value =>
        split at h
        next finite =>
          cases h
          exact ⟨single, rfl, x, rfl, finite, value⟩
        next => cases h
      next => cases h
  · rintro ⟨single, rfl, x, rfl, finite, value⟩
    rw [if_neg single, value]
    exact if_pos finite

/-- A numeral spells a number that is finite. -/
theorem numeral_cases (h : numeral offset s = .ok (kind, n)) :
    ∃ x, kind = .number x ∧ x.isFinite = true ∧
    (Decimal.numeral? (s.take n)).map Decimal.Scaled.toFloat = some x :=
  (numeral_eq_ok_iff.1 h).2.2

theorem numeral_pos (h : numeral offset s = .ok (kind, n)) : 0 < n := by
  obtain ⟨x, -, -, value⟩ := numeral_cases h
  cases n with
  | zero => cases value
  | succ n => exact Nat.succ_pos n

/-- Whether a numeral starts with a character, which a point does if a digit is behind it. -/
def startsNumeral (c : Char) (s : List Char) : Bool :=
  c.isDigit || (c == '.' && s.head?.any Char.isDigit)

/-- Numerals and names count the character that they start with, and tokens do not. -/
theorem map_pred_eq_ok_iff {found : Except SyntaxError (Kind × Nat)}
    (pos : ∀ kind n, found = .ok (kind, n) → 0 < n) :
    found.map (fun r => (r.1, r.2 - 1)) = .ok (kind, n) ↔ found = .ok (kind, n + 1) := by
  cases found with
  | error fault => exact iff_of_false nofun nofun
  | ok r =>
    obtain ⟨kind', m⟩ := r
    have some := pos kind' m rfl
    simp only [Except.map, Except.ok.injEq, Prod.mk.injEq]
    exact and_congr_right fun _ => by omega

theorem lexeme_of_numeral (start : startsNumeral c s = true) :
    lexeme offset c s = (numeral offset (c :: s)).map fun r => (r.1, r.2 - 1) :=
  if_pos start

theorem lexeme_of_name (start : startsName c = true) :
    lexeme offset c s = (name offset (c :: s)).map fun r => (r.1, r.2 - 1) := by
  obtain ⟨digit, point⟩ := not_digit_of_startsName start
  unfold lexeme
  simp [digit, point, start]

theorem lexeme_eq_numeral_iff (start : startsNumeral c s = true) :
    lexeme offset c s = .ok (kind, n) ↔ numeral offset (c :: s) = .ok (kind, n + 1) := by
  rw [lexeme_of_numeral start, map_pred_eq_ok_iff fun _ _ => numeral_pos]

theorem lexeme_eq_name_iff (start : startsName c = true) :
    lexeme offset c s = .ok (kind, n) ↔ name offset (c :: s) = .ok (kind, n + 1) := by
  rw [lexeme_of_name start, map_pred_eq_ok_iff fun _ _ found => name_pos found start]

/-- A token is a numeral, a name, or a text or symbol of its own. -/
theorem lexeme_cases (h : lexeme offset c s = .ok (kind, n)) :
    (startsNumeral c s = true ∧ numeral offset (c :: s) = .ok (kind, n + 1)) ∨
      (startsName c = true ∧ name offset (c :: s) = .ok (kind, n + 1)) ∨
      (startsNumeral c s = false ∧ startsName c = false ∧ kind.keepsText = false ∧
        ∀ x, kind ≠ .number x) := by
  cases numeric : startsNumeral c s with
  | true => exact .inl ⟨rfl, (lexeme_eq_numeral_iff numeric).1 h⟩
  | false =>
    cases start : startsName c with
    | true => exact .inr (.inl ⟨rfl, (lexeme_eq_name_iff start).1 h⟩)
    | false =>
      refine .inr (.inr ⟨rfl, rfl, ?_⟩)
      unfold startsNumeral at numeric
      simp only [lexeme, numeric, start, Bool.false_eq_true, if_false] at h
      split at h
      -- Texts, and the operators of one character or two.
      case h_1 | h_12 | h_13 => split at h <;> cases h <;> simp [Kind.keepsText]
      case h_14 => cases h
      all_goals
        cases h
        simp [Kind.keepsText]

/-- The tokens whose text trees keep are names. -/
theorem name_of_lexeme (h : lexeme offset c s = .ok (kind, n)) (keeps : kind.keepsText = true) :
    startsName c = true ∧ name offset (c :: s) = .ok (kind, n + 1) := by
  rcases lexeme_cases h with ⟨-, found⟩ | named | ⟨-, -, other, -⟩
  · obtain ⟨x, rfl, -⟩ := numeral_cases found
    cases keeps
  · exact named
  · rw [keeps] at other
    cases other

/-! ## Pieces -/

/-- A piece falls into words, whatever stands behind it. -/
def Sealed (s : List Char) (ws : List Word) : Prop :=
  ∀ z zs, (∀ offset, Scans offset z zs) → ∀ offset, Scans offset (s ++ z) (ws ++ zs)

/-- A piece falls into words if what stands behind it can follow an operand. -/
def Chunk (s : List Char) (ws : List Word) : Prop :=
  ∀ z zs, Boundary z → (∀ offset, Scans offset z zs) → ∀ offset, Scans offset (s ++ z) (ws ++ zs)

theorem Sealed.chunk (h : Sealed s ws) : Chunk s ws := fun z zs _ => h z zs

theorem Sealed.append (hs : Sealed s ws) (ht : Sealed t vs) : Sealed (s ++ t) (ws ++ vs) := by
  intro z zs hz offset
  rw [List.append_assoc, List.append_assoc]
  exact hs _ _ (ht z zs hz) offset

theorem Sealed.append_chunk (hs : Sealed s ws) (ht : Chunk t vs) : Chunk (s ++ t) (ws ++ vs) := by
  intro z zs boundary hz offset
  rw [List.append_assoc, List.append_assoc]
  exact hs _ _ (ht z zs boundary hz) offset

theorem Chunk.append_sealed (hs : Chunk s ws) (ht : Sealed t vs)
    (boundary : ∀ z, Boundary (t ++ z)) :
    Sealed (s ++ t) (ws ++ vs) := by
  intro z zs hz offset
  rw [List.append_assoc, List.append_assoc]
  exact hs _ _ (boundary z) (ht z zs hz) offset

/-- A piece that is one token. -/
theorem scans_token (visible : Text.isBlank c = false)
    (lexed : lexeme offset c (s ++ z) = .ok (kind, s.length)) (hz : ∀ offset, Scans offset z zs) :
    Scans offset (c :: s ++ z) (Token.word ⟨kind, String.ofList (c :: s), 0⟩ :: zs) := by
  rw [List.cons_append, scans_cons_iff visible]
  refine ⟨kind, s.length, zs, lexed, ?_, ?_⟩
  · rw [List.drop_left]
    exact hz _
  · rw [List.take_left]
    rfl

theorem sealed_symbol (visible : Text.isBlank c = false) (keeps : kind.keepsText = false)
    (lexed : ∀ offset s, lexeme offset c s = .ok (kind, 0)) : Sealed [c] [Word.plain kind] := by
  intro z zs hz offset
  have scans := scans_token (s := []) visible (lexed offset z) hz
  rwa [Formula.word_of_kind rfl keeps] at scans

theorem sealed_blank (blank : Text.isBlank c = true) : Sealed [c] [] := by
  intro z zs hz offset
  exact (scans_blank blank).2 (hz _)

theorem sealed_blanks (blank : ∀ c ∈ s, Text.isBlank c = true) : Sealed s [] := by
  induction s with
  | nil => exact fun z zs scans => scans
  | cons c s ih =>
    exact (sealed_blank (blank c (by simp))).append (ih fun d hd => blank d (by simp [hd]))

theorem sealed_leftParen : Sealed ['('] [Word.plain .leftParen] :=
  sealed_symbol (by decide) rfl fun _ _ => rfl

theorem sealed_rightParen : Sealed [')'] [Word.plain .rightParen] :=
  sealed_symbol (by decide) rfl fun _ _ => rfl

theorem sealed_comma : Sealed [',', ' '] [Word.plain .comma] :=
  (sealed_symbol (c := ',') (by decide) rfl fun _ _ => rfl).append
    (sealed_blank (c := ' ') (by decide))

theorem sealed_sign (sign : Sign) : Sealed sign.symbol.toList [Word.ofSign sign] := by
  cases sign <;> exact sealed_symbol (by decide) rfl fun _ _ => rfl

/-- An operator with a space on either side. -/
theorem sealed_between (visible : Text.isBlank c = false) (keeps : kind.keepsText = false)
    (lexed : ∀ offset z, lexeme offset c (s ++ ' ' :: z) = .ok (kind, s.length)) :
    Sealed (' ' :: c :: s ++ [' ']) [Word.plain kind] := by
  intro z zs hz offset
  have blank : Text.isBlank ' ' = true := by decide
  have scans : ∀ offset, Scans offset (c :: s ++ ' ' :: z) (Word.plain kind :: zs) := by
    intro offset
    rw [← Formula.word_of_kind (t := ⟨kind, String.ofList (c :: s), 0⟩) rfl keeps]
    exact scans_token visible (lexed offset z) fun offset => (scans_blank blank).2 (hz _)
  rw [List.append_assoc, List.cons_append, scans_blank blank]
  exact scans _

theorem sealed_operator (op : Operator) :
    Sealed (Expr.writeOperator op) [Word.plain (.operator op)] := by
  cases op with
  | add | subtract | multiply | divide | power | concat =>
    exact sealed_symbol (by decide) rfl fun _ _ => rfl
  | equal | notEqual | less | greater | lessEqual | greaterEqual =>
    exact sealed_between (by decide) rfl fun _ _ => rfl

theorem boundary_operator (op : Operator) (z : List Char) :
    Boundary (Expr.writeOperator op ++ z) := by
  cases op <;> (intro c hc; cases hc; decide)

/-! ## Literals -/

theorem chunk_text (s : List Char) :
    Chunk (Expr.writeText s) [Word.plain (.text (String.ofList s))] := by
  intro z zs boundary hz offset
  have closed := closeLiteral_double s (boundary.head?_ne (c := '"') (by decide))
  have lexed : lexeme offset '"' ((double '"' s ++ ['"']) ++ z) =
      .ok (.text (String.ofList s), (double '"' s ++ ['"']).length) := by
    have digit : startsName '"' = false := by decide
    rw [List.append_assoc, List.singleton_append, List.length_append, List.length_singleton]
    simp [lexeme, digit, closed]
  have scans := scans_token (by decide) lexed hz
  rwa [Formula.word_of_kind rfl rfl] at scans

theorem mantissaLength_of_digits (digits : ∀ c ∈ s, c.isDigit = true) (boundary : Boundary z) :
    mantissaLength (s ++ z) = s.length := by
  unfold mantissaLength
  simp only [digitRun_append_eq_iff.2 ⟨digits, boundary.stopsAt (by decide)⟩, List.drop_left]
  split
  next => exact absurd rfl (boundary.head?_ne (c := '.') (by decide))
  next => rfl

theorem mantissaLength_of_point (digits : ∀ c ∈ s, c.isDigit = true)
    (digits' : ∀ c ∈ t, c.isDigit = true) (boundary : Boundary z) :
    mantissaLength (s ++ '.' :: (t ++ z)) = (s ++ '.' :: t).length := by
  have point : Text.StopsAt Char.isDigit ('.' :: (t ++ z)) := Text.stopsAt_cons.2 (by decide)
  unfold mantissaLength
  simp only [digitRun_append_eq_iff.2 ⟨digits, point⟩, List.drop_left,
    digitRun_append_eq_iff.2 ⟨digits', boundary.stopsAt (by decide)⟩, List.length_append,
    List.length_cons]
  omega

theorem exponentLength_of_boundary (boundary : Boundary z) : exponentLength z = 0 := by
  cases z with
  | nil => rfl
  | cons e rest =>
    apply exponentLength_of_no_letter
    rintro (rfl | rfl) <;> exact absurd (boundary _ rfl) (by decide)

theorem numeral_append_of_mantissa {x : Float} (finite : x.isFinite = true)
    (value : (Decimal.numeral? s).map Decimal.Scaled.toFloat = some x)
    (mantissa : mantissaLength (s ++ z) = s.length) (boundary : Boundary z) (offset : Nat) :
    numeral offset (s ++ z) = .ok (.number x, s.length) := by
  rw [numeral_eq_ok_iff, mantissa, List.drop_left, List.take_left,
    exponentLength_of_boundary boundary]
  exact ⟨boundary.head?_ne (by decide), rfl, x, rfl, finite, value⟩

/-- The digits of a number are one word, that number. -/
theorem chunk_number {x : Float} (finite : x.isFinite = true) (reads : Decimal.ReadsBack x) :
    Chunk (Decimal.text x).toList [Word.plain (.number x)] := by
  intro z zs boundary hz offset
  obtain ⟨plain, value⟩ := reads
  generalize (Decimal.text x).toList = s at plain value ⊢
  obtain ⟨m, found, -⟩ := Option.map_eq_some_iff.1 value
  obtain ⟨whole, fraction, digits, digits', split⟩ := Decimal.split_numeral? plain found
  -- The whole text is mantissa, because what may stand behind an operand is neither digit nor
  -- point.
  have mantissa : mantissaLength (s ++ z) = s.length := by
    rcases split with ⟨rfl, -⟩ | ⟨rfl, -⟩
    · exact mantissaLength_of_digits digits boundary
    · rw [List.append_assoc]
      exact mantissaLength_of_point digits digits' boundary
  -- It starts with a digit, or with a point and a digit behind it.
  have first : ∃ c t, s = c :: t ∧
    (c.isDigit || (c == '.' && (t ++ z).head?.any Char.isDigit)) = true := by
    cases whole with
    | cons c t =>
      have digit := digits c (by simp)
      rcases split with ⟨rfl, -⟩ | ⟨rfl, -⟩ <;> exact ⟨c, _, rfl, by simp [digit]⟩
    | nil =>
      obtain ⟨-, empty⟩ | ⟨rfl, some⟩ := split
      · exact absurd rfl empty
      cases fraction with
      | nil => simp at some
      | cons c t => exact ⟨'.', c :: t, rfl, by simp [digits' c (by simp)]⟩
  obtain ⟨c, t, rfl, first⟩ := first
  have visible : Text.isBlank c = false := by
    refine Text.visible_of_isNameChar ?_
    rcases plain c (by simp) with digit | rfl
    · exact Text.isNameChar_of_isAlphanum (Text.isAlphanum_of_isDigit digit)
    · decide
  have number := numeral_append_of_mantissa finite value mantissa boundary offset
  have lexed : lexeme offset c (t ++ z) = .ok (.number x, t.length) :=
    (lexeme_eq_numeral_iff first).2 number
  have scans := scans_token visible lexed hz
  rwa [Formula.word_of_kind rfl rfl] at scans

/-! ## Names -/

theorem chunk_taken (taken : Taken kind (c :: u)) (start : startsName c = true) :
    Chunk (c :: u) [Token.word ⟨kind, String.ofList (c :: u), 0⟩] := by
  intro z zs boundary hz offset
  have named := taken.name_of_boundary (List.cons_ne_nil c u) boundary offset
  exact scans_token (Text.visible_of_startsName start) ((lexeme_eq_name_iff start).2 named) hz

theorem chunk_bool (b : Bool) :
    Chunk (if b then "TRUE".toList else "FALSE".toList) [Word.plain (.bool b)] := by
  cases b with
  | true =>
    have taken : Taken (classify "TRUE".toList []) "TRUE".toList :=
      .other (.bare (List.all_eq_true.1 (by decide))) (by decide)
    exact chunk_taken taken (by decide)
  | false =>
    have taken : Taken (classify "FALSE".toList []) "FALSE".toList :=
      .other (.bare (List.all_eq_true.1 (by decide))) (by decide)
    exact chunk_taken taken (by decide)

theorem sealed_function (called : IsFunctionName (c :: u)) (start : startsName c = true) :
    Sealed (c :: u ++ ['(']) [⟨.function, String.ofList (c :: u)⟩, Word.plain .leftParen] := by
  intro z zs hz offset
  have named := called.name_append (List.cons_ne_nil c u) offset z
  rw [List.append_assoc]
  exact scans_token (Text.visible_of_startsName start) ((lexeme_eq_name_iff start).2 named)
    (sealed_leftParen z zs hz)

/-! ## References -/

theorem localPart_of_mark (marks : '!' ∉ t) (s : List Char) : localPart (s ++ '!' :: t) = t := by
  have last := localPart_append marks (s ++ ['!'])
  simpa [localPart] using last

theorem dropDollar_eq (s : List Char) : dropDollar s = (Address.dollar s).2 := by
  cases s with
  | nil => rfl
  | cons c s =>
    by_cases same : c = '$'
    · subst same
      rfl
    · simp [dropDollar, Address.dollar, same]

theorem localPart_write (a : Address) : localPart a.write = a.writeLocal := by
  have marks : '!' ∉ a.writeLocal := Address.not_mem_writeLocal (by decide)
  rw [Address.write_eq]
  cases a.sheet with
  | none => exact localPart_of_no_mark marks
  | some name =>
    rw [Address.writeSheet, List.append_assoc]
    exact localPart_of_mark marks _

theorem isCellShaped_write (a : Address) : isCellShaped a.write = true := by
  obtain ⟨first, span, second⟩ := a.cut_writeLocal
  have digits : (Nat.toDigits 10 (a.row + 1)).all Char.isDigit = true :=
    List.all_eq_true.2 isDigit_of_mem_toDigits
  have span : (Column.letters a.column ++
    ((if a.rowFixed then ['$'] else []) ++ Nat.toDigits 10 (a.row + 1))).span
      Char.isAlpha = _ := span
  unfold isCellShaped
  rw [localPart_write, dropDollar_eq, first]
  simp only [span, dropDollar_eq, second, digits, Bool.and_true, Bool.and_eq_true, bne_iff_ne]
  exact ⟨Column.letters_ne_nil _, Nat.toDigits_ne_nil⟩

theorem isName_write (a : Address) : IsName a.write := by
  have chars : ∀ c ∈ a.writeLocal, isNameChar c = true :=
    fun c => Address.isNameChar_of_mem_writeLocal
  rw [Address.write_eq]
  cases a.sheet with
  | none => exact .bare chars
  | some name =>
    rw [Address.writeSheet, List.append_assoc]
    unfold SheetName.write
    split
    next plain =>
      exact .ofSheet (fun c hc => Text.isNameChar_of_isPlainChar
        (SheetName.isPlainChar_of_mem plain c hc)) chars
    next =>
      -- In quotes the name ends at the closing apostrophe, as all others are doubled.
      have closed : closeLiteral '\'' (SheetName.doubleApostrophes name.toList ++ ['\'']) =
          some (name.toList, (SheetName.doubleApostrophes name.toList ++ ['\'']).length) := by
        rw [List.length_append]
        exact closeLiteral_double name.toList (by simp)
      simpa using IsName.ofQuoted closed chars

theorem chunk_address (a : Address) : Chunk a.write [⟨.cell, a.text⟩] := by
  have taken := Taken.cell (isName_write a) (isCellShaped_write a)
  obtain ⟨c, u, start, first⟩ := a.write_head
  rw [Address.text]
  rw [start] at taken ⊢
  exact chunk_taken taken first

theorem chunk_range {r : Range} (normalized : r.Normalized) :
    Chunk r.text.toList [⟨.range, r.text⟩] := by
  have corner : r.last.write.head?.any startsCorner = true := by
    obtain ⟨c, s, start, first⟩ := r.last.writeLocal_head
    rw [Address.write_eq, normalized.2.2, Address.writeSheet, List.nil_append, start]
    exact first
  have taken :=
    Taken.range (isName_write r.first) (isCellShaped_write r.first) (isName_write r.last)
    (isCellShaped_write r.last) corner
  obtain ⟨c, u, start, first⟩ := r.first.write_head
  rw [Range.text, String.toList_ofList, List.append_assoc, List.singleton_append]
  rw [start] at taken ⊢
  exact chunk_taken taken first

end Token

end Spreadsheet
