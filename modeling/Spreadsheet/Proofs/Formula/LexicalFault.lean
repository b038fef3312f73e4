import Spreadsheet.Proofs.Formula.Layout
import Spreadsheet.Proofs.Number.Numeral

/-!
# `Proofs/Formula/LexicalFault.lean` — where tokens cannot be cut

The tokenizer fails at one token: it comes through the text up to some place (`Reaches`), and what
starts there is no token. The fault need not be found at that place. It may lie behind the digits
of a number, behind the name of a sheet, or in the second corner of a range. What stands at the
place that it names is said by `LexicalFault`, which has a constructor for each way in which a
token can break off.

Numbers have a fault only if they are too large or a second point follows: what starts like a
numeral starts with one (`exists_numeral?`), since digits and exponents are counted exactly as far
as they can be read. A literal that is not closed is one whose marks come in pairs up to the end
(`closeLiteral_eq_none_iff`).
-/

set_option autoImplicit false

namespace Spreadsheet

variable {offset n : Nat} {s z text front behind : List Char} {c mark : Char} {e : SyntaxError}

namespace Token

/-! ## Literals that are not closed -/

/-- A literal that is never closed has its marks in pairs, up to the end. -/
theorem closeLiteral_eq_none_iff : closeLiteral mark s = none ↔ ∃ text, s = double mark text := by
  constructor
  · intro unclosed
    -- Without a single mark the search takes the text apart into pairs and other characters.
    fun_induction closeLiteral mark s with
    | case1 => exact ⟨[], rfl⟩
    | case2 | case5 => cases unclosed
    | case3 c other => exact ⟨[c], by simp [other]⟩
    | case4 rest ih =>
      obtain ⟨text, rfl⟩ := ih (Option.map_eq_none_iff.1 unclosed)
      exact ⟨mark :: text, by simp⟩
    | case6 c d rest other ih =>
      obtain ⟨text, more⟩ := ih (Option.map_eq_none_iff.1 unclosed)
      exact ⟨c :: text, by simp [other, more]⟩
  · rintro ⟨text, rfl⟩
    induction text with
    | nil => rfl
    | cons c text ih =>
      rw [double, List.flatMap_cons]
      split
      next => simp [closeLiteral, ih]
      next other => simp [closeLiteral_cons other, ih]

/-! ## Numerals -/

/-- How long the numeral is that a text starts with. -/
def numeralLength (s : List Char) : Nat :=
  mantissaLength s + exponentLength (s.drop (mantissaLength s))

theorem take_digitRun (s : List Char) : s.take (digitRun s) = s.takeWhile Char.isDigit :=
  (List.prefix_iff_eq_take.1 (List.takeWhile_prefix Char.isDigit)).symm

/-- What is counted to an exponent is one from end to end. -/
theorem exponent?_take (s : List Char) :
    (∃ x, Decimal.exponent? (s.take (exponentLength s)) = some x) ∧
      ∀ c ∈ (s.take (exponentLength s)).head?, c = 'e' ∨ c = 'E' := by
  have digits : ∀ {u : List Char}, digitRun u ≠ 0 →
    u.take (digitRun u) ≠ [] ∧ (u.take (digitRun u)).all Char.isDigit := by
    intro u some
    rw [take_digitRun]
    exact ⟨fun empty => some (by rw [digitRun, empty]; rfl),
      List.all_eq_true.2 fun _ => List.mem_takeWhile_imp⟩
  -- Where no digit follows, nothing is counted, and no exponent is zero.
  have none : (∃ x, Decimal.exponent? (s.take 0) = some x) ∧ ∀ c ∈ (s.take 0).head?, c = 'e' ∨
    c = 'E' :=
    ⟨⟨0, rfl⟩, by simp⟩
  cases s with
  | nil => exact ⟨⟨0, rfl⟩, by simp⟩
  | cons e rest =>
    by_cases letter : e = 'e' ∨ e = 'E'
    case neg =>
      rw [exponentLength_of_no_letter letter]
      exact none
    cases rest with
    | nil =>
      rw [exponentLength_singleton]
      exact none
    | cons c rest =>
      by_cases signed : c = '+' ∨ c = '-'
      · rw [exponentLength_of_sign letter signed]
        split
        next => exact none
        next some =>
          have run := digits some
          rw [Nat.add_comm, List.take_succ_cons, List.take_succ_cons]
          refine ⟨?_, by simpa using letter⟩
          rcases signed with rfl | rfl <;> simp [Decimal.exponent?, letter, run]
      · rw [exponentLength_of_no_sign letter signed]
        split
        next => exact none
        next some =>
          have run := digits some
          rw [Nat.add_comm, List.take_succ_cons]
          refine ⟨?_, by simpa using letter⟩
          have start : (c :: rest).take (digitRun (c :: rest)) = c ::
            rest.take (digitRun (c :: rest) - 1) := by
            obtain ⟨k, some⟩ := Nat.exists_eq_succ_of_ne_zero some
            rw [some, List.take_succ_cons, Nat.succ_sub_one]
          rw [start] at run ⊢
          simp only [Decimal.exponent?, letter, if_true]
          split
          next => exact absurd (by simp_all) signed
          next => exact absurd (by simp_all) signed
          next => simp [run]

/-- What is counted to the mantissa is a run of digits, or two of them with a point between. -/
theorem mantissa_cases (s : List Char) :
    ∃ whole z, (∀ c ∈ whole, c.isDigit = true) ∧ Text.StopsAt Char.isDigit z ∧
    ((z.head? ≠ some '.' ∧ s = whole ++ z ∧ mantissaLength s = whole.length) ∨
      ∃ fraction, (∀ c ∈ fraction, c.isDigit = true) ∧ s = whole ++ '.' :: fraction ++ z ∧
        mantissaLength s = (whole ++ '.' :: fraction).length) := by
  have digits : ∀ {u : List Char}, ∀ c ∈ u.takeWhile Char.isDigit, c.isDigit = true :=
    fun _ => List.mem_takeWhile_imp
  have cut := List.takeWhile_append_dropWhile (p := Char.isDigit) (l := s)
  have stops : Text.StopsAt Char.isDigit (s.dropWhile Char.isDigit) := Text.stopsAt_dropWhile _ _
  have run : digitRun s = (s.takeWhile Char.isDigit).length := rfl
  have behind : s.drop (digitRun s) = s.dropWhile Char.isDigit := by
    have dropped := @List.drop_left _ (s.takeWhile Char.isDigit) (s.dropWhile Char.isDigit)
    rwa [cut] at dropped
  -- A point right behind the digits belongs to the mantissa, whether digits follow or not.
  by_cases point : (s.dropWhile Char.isDigit).head? = some '.'
  · obtain ⟨rest, start⟩ := List.head?_eq_some_iff.1 point
    refine ⟨s.takeWhile Char.isDigit, rest.dropWhile Char.isDigit, digits,
      Text.stopsAt_dropWhile _ _, .inr ⟨rest.takeWhile Char.isDigit, digits, ?_, ?_⟩⟩
    · rw [List.append_assoc, List.cons_append, List.takeWhile_append_dropWhile, ← start, cut]
    · rw [mantissaLength, behind, start]
      simp only [List.length_append, List.length_cons, digitRun]
      omega
  · refine ⟨s.takeWhile Char.isDigit, s.dropWhile Char.isDigit, digits, stops,
      .inl ⟨point, cut.symm, ?_⟩⟩
    rw [mantissaLength, behind]
    split
    next start => exact absurd (by rw [start]; rfl) point
    next => exact run

/-- The digits and the point of a numeral take a byte each. -/
theorem width_take_mantissaLength (s : List Char) :
    width (s.take (mantissaLength s)) = mantissaLength s := by
  -- Digits and points are below 128.
  have small : ∀ {u : List Char}, (∀ c ∈ u, c.isDigit = true ∨ c = '.') → width u = u.length := by
    intro u plain
    induction u with
    | nil => rfl
    | cons c u ih =>
      have size : c.utf8Size = 1 := by
        rcases plain c List.mem_cons_self with digit | rfl
        · have small : c.val.toNat < 128 :=
            Text.toNat_lt_of_isAlphanum (Text.isAlphanum_of_isDigit digit)
          rw [Char.utf8Size_eq_one_iff, UInt32.le_iff_toNat_le]
          exact Nat.le_of_lt_succ small
        · rfl
      rw [width_cons, size, ih fun d hd => plain d (List.mem_cons_of_mem _ hd), List.length_cons,
        Nat.add_comm]
  obtain ⟨whole, z, digits, -, ⟨-, rfl, length⟩ | ⟨fraction, digits', rfl, length⟩⟩ :=
    mantissa_cases s
  · rw [length, List.take_left]
    exact small fun c hc => .inl (digits c hc)
  · rw [length, List.take_left]
    refine small fun c hc => ?_
    rcases List.mem_append.1 hc with hc | hc
    · exact .inl (digits c hc)
    · exact (List.mem_cons.1 hc).symm.imp_left (digits' c)

/-- What starts like a numeral starts with one. -/
theorem exists_numeral? (start : startsNumeral c s = true) :
    ∃ m, Decimal.numeral? ((c :: s).take (numeralLength (c :: s))) = some m := by
  obtain ⟨whole, z, digits, stops, cases⟩ := mantissa_cases (c :: s)
  obtain ⟨⟨x, exponent⟩, letter⟩ := exponent?_take z
  have stops' : Text.StopsAt Char.isDigit (z.take (exponentLength z)) := by
    intro d hd
    rcases letter d hd with rfl | rfl <;> decide
  unfold numeralLength
  rw [List.take_add]
  obtain ⟨other, cut, length⟩ | ⟨fraction, digits', cut, length⟩ := cases
  -- Either it starts with a digit, or with a point that a digit follows.
  · have nonempty : whole ≠ [] := by
      rintro rfl
      subst cut
      have point : c ≠ '.' := by simpa using other
      simp [startsNumeral, Text.stopsAt_cons.1 stops, point] at start
    have point : (z.take (exponentLength z)).head? ≠ some '.' := fun h => by
      rcases letter '.' h with h | h <;> cases h
    rw [length, cut, List.drop_left, List.take_left,
      Decimal.numeral?_of_digits digits nonempty stops' point, exponent]
    exact ⟨_, rfl⟩
  · have nonempty : whole ≠ [] ∨ fraction ≠ [] := by
      rw [← not_and_or]
      rintro ⟨rfl, rfl⟩
      obtain ⟨point, behind⟩ : c = '.' ∧ s = z := by simpa using cut
      have none : z.head?.any Char.isDigit = false := by
        cases z with
        | nil => rfl
        | cons d z => exact Text.stopsAt_cons.1 stops
      rw [startsNumeral, point, behind, none] at start
      cases start
    rw [length, cut, List.drop_left, List.take_left,
      Decimal.numeral?_of_point digits digits' nonempty stops', exponent]
    exact ⟨_, rfl⟩

/-! ## Faults of a token -/

/-- A fault of the token that a text at an offset starts with. -/
inductive LexicalFault (offset : Nat) : List Char → SyntaxError → Prop where
  /-- A character that starts no token, or one that breaks a token off. -/
  | unexpectedChar (front : List Char) (c : Char) (z : List Char) :
      LexicalFault offset (front ++ c :: z) (.unexpectedChar c (offset + width front))
  /-- The text ends where a token would have to go on. -/
  | unexpectedEnd (front : List Char) :
      LexicalFault offset front (.unexpectedEnd (offset + width front))
  /-- All marks behind the opening one are in pairs. It opens the token, or the second corner of a
  range. -/
  | unterminated (front : List Char) {mark : Char} (text : List Char)
      (hmark : mark = '"' ∨ mark = '\'')
      (opens : front = [] ∨ ∃ corner, isCellShaped corner = true ∧ front = corner ++ [':']) :
      LexicalFault offset (front ++ mark :: double mark text) (.unterminated (offset + width front))
  | numberOutOfRange {s : List Char} {m : Decimal.Scaled}
      (spells : Decimal.numeral? (s.take (numeralLength s)) = some m)
      (large : m.toFloat.isFinite = false) :
      LexicalFault offset s (.numberOutOfRange offset)

theorem numeral_fault (start : startsNumeral c s = true) (h : numeral offset (c :: s) = .error e) :
    LexicalFault offset (c :: s) e := by
  unfold numeral at h
  dsimp only at h
  split at h
  next point =>
    cases h
    obtain ⟨z, second⟩ := List.head?_eq_some_iff.1 point
    have fault : LexicalFault offset _ _ :=
      .unexpectedChar ((c :: s).take (mantissaLength (c :: s))) '.' z
    rwa [← second, List.take_append_drop, width_take_mantissaLength] at fault
  next =>
    obtain ⟨m, spells⟩ := exists_numeral? start
    -- The text can be read as a numeral, so the only fault that is left is its size.
    have value : (Decimal.numeral? ((c :: s).take (mantissaLength (c :: s) +
        exponentLength ((c :: s).drop (mantissaLength (c :: s)))))).map Decimal.Scaled.toFloat =
        some m.toFloat := by
      rw [← numeralLength, spells, Option.map_some]
    rw [value] at h
    dsimp only at h
    split at h
    next => cases h
    next large =>
      cases h
      exact .numberOutOfRange spells (Bool.eq_false_iff.2 large)

/-- A name breaks off at an apostrophe that is not closed, or behind one that is. -/
theorem nameLength_fault (h : nameLength offset s = .error e) :
    (∃ text, s = '\'' :: double '\'' text ∧ e = .unterminated offset) ∨
      ∃ front, (∃ c z, s = front ++ c :: z ∧ e = .unexpectedChar c (offset + width front)) ∨
        s = front ∧ e = .unexpectedEnd (offset + width front) := by
  unfold nameLength at h
  split at h
  next rest =>
    split at h
    next unclosed =>
      cases h
      obtain ⟨text, rfl⟩ := closeLiteral_eq_none_iff.1 unclosed
      exact .inl ⟨text, rfl, rfl⟩
    next text n closed =>
      -- Behind the closing apostrophe there has to be a mark; what stands there instead is the
      -- fault.
      have cut : '\'' :: rest = '\'' :: rest.take n ++ rest.drop n := by
        rw [List.cons_append, List.take_append_drop]
      dsimp only at h
      refine .inr ⟨'\'' :: rest.take n, ?_⟩
      split at h
      next => cases h
      next c z other behind =>
        cases h
        exact .inl ⟨c, z, by rw [cut, behind], rfl⟩
      next behind =>
        cases h
        exact .inr ⟨by rw [cut, behind, List.append_nil], rfl⟩
  next => cases h

theorem name_fault (h : name offset s = .error e) : LexicalFault offset s e := by
  unfold name at h
  split at h
  next fault first =>
    cases h
    obtain ⟨text, rfl, rfl⟩ | ⟨front, ⟨c, z, rfl, rfl⟩ | ⟨rfl, rfl⟩⟩ := nameLength_fault first
    · exact .unterminated [] text (.inr rfl) (.inl rfl)
    · exact .unexpectedChar front c z
    · exact .unexpectedEnd s
  next n first =>
    dsimp only at h
    split at h
    next shaped =>
      split at h
      next c rest behind =>
        split at h
        next =>
          split at h
          next fault second =>
            cases h
            -- The fault is in the second corner, behind the first one and the colon.
            have cut : s = s.take n ++ [':'] ++ c :: rest := by
              rw [List.append_assoc, List.singleton_append, ← behind, List.take_append_drop]
            have place : offset + width (s.take n) + 1 = offset + width (s.take n ++ [':']) := by
              rw [width_append, Nat.add_assoc]
              rfl
            rw [place] at second
            generalize s.take n = corner at shaped cut second
            obtain ⟨text, more, rfl⟩ | ⟨front, ⟨d, z, more, rfl⟩ | ⟨more, rfl⟩⟩ :=
              nameLength_fault second
            · rw [cut, more]
              exact .unterminated _ text (.inr rfl) (.inr ⟨corner, shaped, rfl⟩)
            · rw [cut, more, ← List.append_assoc, Nat.add_assoc, ← width_append]
              exact .unexpectedChar _ d z
            · rw [cut, more, Nat.add_assoc, ← width_append]
              exact .unexpectedEnd _
          next => cases h
        next => cases h
      next => cases h
    next => cases h

/-- What starts no token is at fault. -/
theorem lexeme_fault (h : lexeme offset c s = .error e) : LexicalFault offset (c :: s) e := by
  -- Counting off the first character changes no error.
  have of_map : ∀ {found : Except SyntaxError (Kind × Nat)},
    found.map (fun r => (r.1, r.2 - 1)) = .error e →
      found = .error e := by
    intro found h
    cases found with
    | error fault =>
      cases h
      rfl
    | ok => cases h
  cases numeric : startsNumeral c s with
  | true =>
    rw [lexeme_of_numeral numeric] at h
    exact numeral_fault numeric (of_map h)
  | false =>
    cases start : startsName c with
    | true =>
      rw [lexeme_of_name start] at h
      exact name_fault (of_map h)
    | false =>
      unfold startsNumeral at numeric
      simp only [lexeme, numeric, start, Bool.false_eq_true, if_false] at h
      split at h
      case h_1 =>
        split at h
        next => cases h
        next unclosed =>
          cases h
          obtain ⟨text, rfl⟩ := closeLiteral_eq_none_iff.1 unclosed
          exact .unterminated [] text (.inl rfl) (.inl rfl)
      case h_12 | h_13 => split at h <;> cases h
      case h_14 =>
        cases h
        exact .unexpectedChar [] c s
      all_goals cases h

/-! ## Faults of a text -/

/-- The tokenizer comes through a text, from one offset to another, and has some of the text
left. -/
inductive Reaches : Nat → List Char → Nat → List Char → Prop where
  | here (offset : Nat) (s : List Char) : Reaches offset s offset s
  | blank {offset place : Nat} {c : Char} {s z : List Char} (blank : Text.isBlank c = true)
      (rest : Reaches (offset + c.utf8Size) s place z) : Reaches offset (c :: s) place z
  | token {offset place : Nat} {c : Char} {u s z : List Char} {kind : Kind}
      (visible : Text.isBlank c = false)
      (lexed : lexeme offset c (u ++ s) = .ok (kind, u.length))
      (rest : Reaches (offset + width (c :: u)) s place z) :
      Reaches offset (c :: u ++ s) place z

theorem Reaches.exists_front {place : Nat} (reaches : Reaches offset s place z) :
    ∃ front, s = front ++ z ∧ place = offset + width front := by
  induction reaches with
  | here => exact ⟨[], rfl, rfl⟩
  | @blank offset _ c _ _ _ _ ih =>
    obtain ⟨front, rfl, rfl⟩ := ih
    exact ⟨c :: front, rfl, by rw [width_cons, Nat.add_assoc]⟩
  | @token offset _ c u _ _ _ _ _ _ ih =>
    obtain ⟨front, rfl, rfl⟩ := ih
    exact ⟨c :: u ++ front, by rw [List.append_assoc], by rw [width_append, Nat.add_assoc]⟩

/-- A text that cannot be cut into tokens has a fault where some token would start. -/
theorem scanFrom_fault (h : scanFrom offset s = .error e) :
    ∃ place z, Reaches offset s place z ∧ LexicalFault place z e := by
  fun_induction scanFrom offset s with
  | case1 => cases h
  | case2 offset c s blank ih =>
    obtain ⟨place, z, reaches, fault⟩ := ih h
    exact ⟨place, z, .blank blank reaches, fault⟩
  | case3 offset c s visible fault lexed =>
    cases h
    exact ⟨offset, c :: s, .here _ _, lexeme_fault lexed⟩
  | case4 offset c s visible kind n lexed text fault scanned ih =>
    cases h
    obtain ⟨place, z, reaches, fault⟩ := ih scanned
    refine ⟨place, z, ?_, fault⟩
    have length : (s.take n).length = n := by
      rw [List.length_take, Nat.min_eq_left (lexeme_le lexed)]
    have lexed' : lexeme offset c (s.take n ++ s.drop n) = .ok (kind, (s.take n).length) := by
      rw [List.take_append_drop, length]
      exact lexed
    -- The token was cut, so the place of the fault is reached through it.
    have through := Reaches.token (by simpa using visible) lexed' reaches
    rwa [List.cons_append, List.take_append_drop] at through
  | case5 => cases h

end Token

end Spreadsheet
