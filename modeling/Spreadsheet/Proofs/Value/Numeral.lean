import Mathlib
import Spreadsheet.Proofs.Number.Numeral
import Spreadsheet.Proofs.Text.Lines
import Spreadsheet.Value.NumericText

/-!
# `Proofs/Value/Numeral.lean` — how a magnitude may be written

A numeral is written with digits before a point, after it, or both, and with an exponent behind if
it has one. The digits before the point may be grouped by commas. Reading checks the commas on the
text as it stands and leaves them out then, and what is left has to be a numeral to its end, so
that nothing else can hide in the groups (`magnitude?_eq_some_iff`).

The rules for numerals say nothing of reading. What ends the digits before the point is a point or
the letter of an exponent, and commas are looked for only up to there; behind it there must be
none.
-/

set_option autoImplicit false

namespace Spreadsheet.NumericText

open Decimal (Scaled ofDigits exponent? numeral? spanDigits)

/-! ## The grammar -/

/-- A text is a run of digits, which may have none. -/
def Digits (s : List Char) : Prop := ∀ c ∈ s, c.isDigit = true

/-- A character is a plus or a minus sign, if there is one. -/
def IsSign (sign : Option Char) : Prop := ∀ c ∈ sign, c = '+' ∨ c = '-'

/-- How the digits before a point may be written: as they are, or with commas between groups of
three behind a first group of one, two or three. -/
inductive Whole : List Char → List Char → Prop
  | plain {digits : List Char} (all : Digits digits) : Whole digits digits
  | grouped {first : List Char} {groups : List (List Char)} (nonempty : first ≠ [])
      (short : first.length ≤ 3) (all : Digits first)
      (threes : ∀ group ∈ groups, group.length = 3 ∧ Digits group) :
      Whole (first ++ groups.flatMap (',' :: ·)) (first ++ groups.flatten)

/-- How an exponent may be written. -/
inductive Exponent : List Char → ℤ → Prop
  | absent : Exponent [] 0
  | present {letter : Char} {sign : Option Char} {digits : List Char}
      (isLetter : letter = 'e' ∨ letter = 'E')
      (isSign : IsSign sign) (nonempty : digits ≠ []) (all : Digits digits) :
      Exponent (letter :: (sign.toList ++ digits))
      (if sign = some '-' then -(ofDigits digits : ℤ) else ofDigits digits)

/-- How a magnitude may be written: without a point, or with one and a digit on one of its sides. -/
inductive Numeral : List Char → Scaled → Prop
  | whole {text digits behind : List Char} {e : ℤ} (written : Whole text digits)
      (nonempty : digits ≠ [])
      (exponent : Exponent behind e) : Numeral (text ++ behind) ⟨ofDigits digits, e⟩
  | point {text digits fraction behind : List Char} {e : ℤ} (written : Whole text digits)
      (all : Digits fraction)
      (nonempty : digits ≠ [] ∨ fraction ≠ []) (exponent : Exponent behind e) :
      Numeral (text ++ '.' :: fraction ++ behind)
        ⟨ofDigits (digits ++ fraction), e - fraction.length⟩

variable {c : Char} {s w z text : List Char} {m : Scaled} {e : ℤ} {x : Float}

/-! ## Characters -/

theorem not_mem_of_digits (all : Digits s) (other : c.isDigit = false) : c ∉ s := by
  intro mem
  rw [all c mem] at other
  cases other

theorem Whole.isDigits {digits : List Char} (h : Whole text digits) : Digits digits := by
  cases h with
  | plain all => exact all
  | grouped nonempty short all threes =>
    refine List.forall_mem_append.2 ⟨all, fun c hc => ?_⟩
    obtain ⟨group, mem, hc⟩ := List.mem_flatten.1 hc
    exact (threes group mem).2 c hc

/-- There are digits and commas before a point. -/
theorem Whole.mem {digits : List Char} (h : Whole text digits) (hc : c ∈ text) :
    c.isDigit = true ∨ c = ',' := by
  cases h with
  | plain all => exact .inl (all c hc)
  | grouped nonempty short all threes =>
    rcases List.mem_append.1 hc with hc | hc
    · exact .inl (all c hc)
    · obtain ⟨group, mem, hc⟩ := List.mem_flatMap.1 hc
      rcases List.mem_cons.1 hc with comma | hc
      · exact .inr comma
      · exact .inl ((threes group mem).2 c hc)

theorem Exponent.mem (h : Exponent z e) (hc : c ∈ z) :
    c.isDigit = true ∨ c ∈ ['e', 'E', '+', '-'] := by
  cases h with
  | absent => cases hc
  | present isLetter isSign nonempty all =>
    rcases List.mem_cons.1 hc with rfl | hc
    · rcases isLetter with rfl | rfl <;> simp
    rcases List.mem_append.1 hc with hc | hc
    · rcases isSign c (Option.mem_toList.1 hc) with rfl | rfl <;> simp
    · exact .inl (all c hc)

/-- What a numeral may be written with. -/
theorem Numeral.mem (h : Numeral s m) (hc : c ∈ s) :
    c.isDigit = true ∨ c ∈ [',', '.', 'e', 'E', '+', '-'] := by
  have before {text digits : List Char} (written : Whole text digits) (hc : c ∈ text) :
      c.isDigit = true ∨ c ∈ [',', '.', 'e', 'E', '+', '-'] :=
      (written.mem hc).imp_right fun comma => by simp [comma]
  have behind {z : List Char} {e : ℤ} (exponent : Exponent z e) (hc : c ∈ z) :
      c.isDigit = true ∨ c ∈ [',', '.', 'e', 'E', '+', '-'] :=
    (exponent.mem hc).imp_right fun mem => List.mem_cons_of_mem _ (List.mem_cons_of_mem _ mem)
  cases h with
  | whole written nonempty exponent =>
    rcases List.mem_append.1 hc with hc | hc
    · exact before written hc
    · exact behind exponent hc
  | point written all nonempty exponent =>
    rcases List.mem_append.1 hc with hc | hc
    · rcases List.mem_append.1 hc with hc | hc
      · exact before written hc
      · rcases List.mem_cons.1 hc with rfl | hc
        · simp
        · exact .inl (all c hc)
    · exact behind exponent hc

/-- A numeral starts with a digit or with the point. -/
theorem Numeral.exists_cons (h : Numeral s m) :
    ∃ c rest, s = c :: rest ∧ (c.isDigit = true ∨ c = '.') := by
  have starts {text digits : List Char} (written : Whole text digits) (nonempty : digits ≠ [])
    (z : List Char) :
      ∃ c rest, text ++ z = c :: rest ∧ (c.isDigit = true ∨ c = '.') := by
    cases written with
    | plain all =>
      obtain ⟨c, rest, rfl⟩ := List.exists_cons_of_ne_nil nonempty
      exact ⟨c, rest ++ z, rfl, .inl (all c List.mem_cons_self)⟩
    | grouped filled short all threes =>
      obtain ⟨c, rest, rfl⟩ := List.exists_cons_of_ne_nil filled
      exact ⟨c, _, rfl, .inl (all c List.mem_cons_self)⟩
  cases h with
  | whole written nonempty exponent => exact starts written nonempty _
  | @point text digits fraction behind e written all nonempty exponent =>
    rw [List.append_assoc]
    -- Without digits before it the point comes first.
    by_cases none : digits = []
    · cases written with
      | plain all => exact ⟨'.', _, by rw [none]; rfl, .inr rfl⟩
      | grouped filled short all threes => exact absurd (List.append_eq_nil_iff.1 none).1 filled
    · exact starts written none _

/-! ## Exponents -/

theorem exponent?_eq_some_iff : exponent? z = some e ↔ Exponent z e := by
  constructor
  · intro h
    cases z with
    | nil =>
      cases h
      exact .absent
    | cons letter rest =>
      simp only [exponent?] at h
      split at h
      next isLetter =>
        have written (sign : Option Char) {digits : List Char} (isSign : IsSign sign)
            (h : (if digits ≠ [] ∧ digits.all Char.isDigit = true then
              some (if sign = some '-' then -(ofDigits digits : ℤ) else ofDigits digits)
                else none) = some e) :
            Exponent (letter :: (sign.toList ++ digits)) e := by
          split at h
          next all =>
            cases h
            exact .present isLetter isSign all.1 (List.all_eq_true.1 all.2)
          next => cases h
        -- The sign is looked for first, and all that is behind it has to be digits.
        split at h
        · exact written (some '-') (by simp [IsSign]) h
        · exact written (some '+') (by simp [IsSign]) h
        · exact written none (by simp [IsSign]) h
      next => cases h
  · intro h
    cases h with
    | absent => rfl
    | @present letter sign digits isLetter isSign nonempty all =>
      have every : digits ≠ [] ∧ digits.all Char.isDigit = true :=
        ⟨nonempty, List.all_eq_true.2 all⟩
      simp only [exponent?, if_pos isLetter]
      cases sign with
      | some sign => rcases isSign sign rfl with rfl | rfl <;> simp [every]
      | none =>
        obtain ⟨c, rest, rfl⟩ := List.exists_cons_of_ne_nil nonempty
        have digit := all c List.mem_cons_self
        have minus : c ≠ '-' := by rintro rfl; exact absurd digit (by decide)
        have plus : c ≠ '+' := by rintro rfl; exact absurd digit (by decide)
        simp [minus, plus, every]

/-! ## Numerals without commas -/

theorem numeral?_of_stops (stops : Text.StopsAt Char.isDigit z) (point : z.head? ≠ some '.') :
    numeral? z = none := by
  have cut := Text.span_append (s := []) nofun stops
  rw [List.nil_append] at cut
  unfold numeral? spanDigits
  rw [cut]
  dsimp only
  split
  next => exact absurd rfl point
  next => rfl

theorem numeral?_of_lone_point (stops : Text.StopsAt Char.isDigit z) :
    numeral? ('.' :: z) = none := by
  have point := Text.span_append (s := []) (z := '.' :: z) nofun
    (Text.stopsAt_cons.2 (show Char.isDigit '.' = false by decide))
  have cut := Text.span_append (s := []) nofun stops
  rw [List.nil_append] at point cut
  unfold numeral? spanDigits
  simp only [point, cut, and_self, if_true]

/-- What stands before the point or the exponent of a numeral is digits only. -/
theorem digits_of_numeral? (before : ∀ c ∈ w, endsWhole c = false)
    (h : numeral? (w ++ z) = some m) : Digits w := by
  obtain ⟨run, rest, rfl, all, stops⟩ := Text.exists_run Char.isDigit w
  cases rest with
  | nil => rwa [List.append_nil]
  | cons c rest =>
    -- This character is neither a digit nor a point nor an exponent, and the numeral would have
    -- to go on with one of them.
    have other := before c (List.mem_append_right _ List.mem_cons_self)
    simp only [endsWhole, Bool.or_eq_false_iff, beq_eq_false_iff_ne] at other
    obtain ⟨⟨point, e⟩, e'⟩ := other
    have stops' : Text.StopsAt Char.isDigit (c :: (rest ++ z)) :=
      Text.stopsAt_cons.2 (Text.stopsAt_cons.1 stops)
    have head : (c :: (rest ++ z)).head? ≠ some '.' := fun h => point (Option.some.inj h)
    have noExponent : exponent? (c :: (rest ++ z)) = none := if_neg (not_or.2 ⟨e, e'⟩)
    rw [List.append_assoc, List.cons_append] at h
    by_cases none : run = []
    · rw [none, List.nil_append, numeral?_of_stops stops' head] at h
      cases h
    · rw [Decimal.numeral?_of_digits all none stops' head, noExponent] at h
      cases h

/-- The digits of a numeral before its point or its exponent may be written with commas. -/
theorem Whole.numeral (written : Whole text w) (stops : Text.StopsAt (!endsWhole ·) z)
    (h : numeral? (w ++ z) = some m) :
    Numeral (text ++ z) m := by
  have all := written.isDigits
  -- What ends the digits is the point, or the letter of an exponent, or the end.
  by_cases point : z.head? = some '.'
  · obtain ⟨rest, rfl⟩ := List.head?_eq_some_iff.1 point
    obtain ⟨fraction, behind, rfl, all', next⟩ := Text.exists_run Char.isDigit rest
    by_cases nonempty : w ≠ [] ∨ fraction ≠ []
    · rw [← List.cons_append, ← List.append_assoc,
        Decimal.numeral?_of_point all all' nonempty next] at h
      obtain ⟨e, exponent, rfl⟩ := Option.map_eq_some_iff.1 h
      rw [← List.cons_append, ← List.append_assoc]
      exact .point written all' nonempty (exponent?_eq_some_iff.1 exponent)
    · simp only [not_or, not_not] at nonempty
      rw [nonempty.1, nonempty.2, List.nil_append, List.nil_append,
        numeral?_of_lone_point next] at h
      cases h
  · have letter : Text.StopsAt Char.isDigit z := by
      intro c hc
      have ends := stops c hc
      simp only [endsWhole, Bool.not_eq_false', Bool.or_eq_true, beq_iff_eq] at ends
      rcases ends with (rfl | rfl) | rfl <;> decide
    by_cases nonempty : w = []
    · rw [nonempty, List.nil_append, numeral?_of_stops letter point] at h
      cases h
    · rw [Decimal.numeral?_of_digits all nonempty letter point] at h
      obtain ⟨e, exponent, rfl⟩ := Option.map_eq_some_iff.1 h
      exact .whole written nonempty (exponent?_eq_some_iff.1 exponent)

/-! ## Commas -/

theorem filter_of_not_mem (h : ',' ∉ s) : s.filter (· != ',') = s :=
  List.filter_eq_self.2 fun _ hc => bne_iff_ne.2 fun comma => h (comma ▸ hc)

/-- Groups without their commas are the groups joined. -/
theorem filter_join {first : List Char} {more : List (List Char)}
    (none : ∀ piece ∈ first :: more, ',' ∉ piece) :
    (first ++ more.flatMap (',' :: ·)).filter (· != ',') = first ++ more.flatten := by
  induction more generalizing first with
  | nil => simpa using filter_of_not_mem (none first List.mem_cons_self)
  | cons piece more ih =>
    obtain ⟨here, rest⟩ := List.forall_mem_cons.1 none
    rw [List.flatMap_cons, List.cons_append, List.filter_append, filter_of_not_mem here,
      List.filter_cons_of_neg (by simp), ih rest, List.flatten_cons]

theorem Whole.filter {digits : List Char} (h : Whole text digits) :
    text.filter (· != ',') = digits := by
  have comma {s : List Char} (all : Digits s) : ',' ∉ s := not_mem_of_digits all (by decide)
  cases h with
  | plain all => exact filter_of_not_mem (comma all)
  | grouped nonempty short all threes =>
    exact filter_join (List.forall_mem_cons.2
      ⟨comma all, fun group mem => comma (threes group mem).2⟩)

theorem Whole.isGrouped {digits : List Char} (h : Whole text digits)
    (stops : Text.StopsAt (!endsWhole ·) z) (none : ',' ∉ z) :
    isGrouped (text ++ z) = true := by
  have before : ∀ c ∈ text, (!endsWhole c) = true := by
    intro c hc
    rw [Bool.not_eq_true']
    rcases h.mem hc with digit | rfl
    · simp only [endsWhole, Bool.or_eq_false_iff, beq_eq_false_iff_ne]
      refine ⟨⟨?_, ?_⟩, ?_⟩ <;> rintro rfl <;> exact absurd digit (by decide)
    · decide
  have comma {s : List Char} (all : Digits s) : ',' ∉ s := not_mem_of_digits all (by decide)
  unfold NumericText.isGrouped
  rw [Text.span_append before stops]
  dsimp only
  cases h with
  | plain all =>
    rw [Text.pieces_of_not_mem (comma all)]
    simpa using none
  | @grouped first groups nonempty short all threes =>
    rw [Text.pieces_join (List.forall_mem_cons.2
      ⟨comma all, fun group mem => comma (threes group mem).2⟩)]
    -- A single group has no comma and is not asked for its length.
    cases groups with
    | nil => simpa using none
    | cons second more =>
      have groups : ((second :: more).all fun group => group.length == 3 &&
        group.all Char.isDigit) = true := by
        rw [List.all_eq_true]
        intro group mem
        obtain ⟨three, all⟩ := threes group mem
        rw [Bool.and_eq_true, beq_iff_eq]
        exact ⟨three, List.all_eq_true.2 all⟩
      simp only [groups, Bool.and_true, Bool.and_eq_true, Bool.not_eq_true', decide_eq_true_eq,
        bne_iff_ne]
      exact ⟨⟨by simpa using none, nonempty⟩, short⟩

/-- If the commas pass and what is left of the text before them is digits, they stand as they
may. -/
theorem whole_of_isGrouped (before : ∀ c ∈ w, endsWhole c = false)
    (stops : Text.StopsAt (!endsWhole ·) z) (h : isGrouped (w ++ z) = true) :
    ',' ∉ z ∧ (Digits (w.filter (· != ',')) → Whole w (w.filter (· != ','))) := by
  unfold isGrouped at h
  rw [Text.span_append (fun c hc => by simpa using before c hc) stops] at h
  dsimp only at h
  obtain ⟨first, more, pieces, joined, none⟩ := Text.join_pieces ',' w
  rw [pieces] at h
  rw [joined, filter_join none]
  -- Without a comma the text is what it is; with commas the groups behind the first have three
  -- digits each.
  cases more with
  | nil =>
    refine ⟨by simpa using h, fun all => ?_⟩
    simpa using Whole.plain (by simpa using all)
  | cons second more =>
    simp only [Bool.and_eq_true, Bool.not_eq_true', decide_eq_true_eq, bne_iff_ne] at h
    obtain ⟨⟨⟨comma, nonempty⟩, short⟩, threes⟩ := h
    refine ⟨by simpa using comma,
      fun all => .grouped nonempty short (List.forall_mem_append.1 all).1 fun group mem => ?_⟩
    have three := List.all_eq_true.1 threes group mem
    rw [Bool.and_eq_true, beq_iff_eq] at three
    exact ⟨three.1, List.all_eq_true.1 three.2⟩

/-! ## Magnitudes -/

/-- The names of numbers that are not finite give no finite number. -/
theorem unsigned?_filter_eq_some_iff :
    (Decimal.unsigned? s).filter Float.isFinite = some x ↔
    ∃ m, numeral? s = some m ∧ m.toFloat = x ∧ x.isFinite = true := by
  rw [Option.filter_eq_some_iff]
  unfold Decimal.unsigned?
  cases numeral? s with
  | some m => simp
  | none =>
    simp only [reduceCtorEq, false_and, exists_false, iff_false]
    rintro ⟨name, finite⟩
    split at name
    · cases name
      exact absurd finite (by decide)
    · split at name
      · cases name
        exact absurd finite (by decide)
      · cases name

/-- A numeral whose digits before the point are written with commas reads as it does without
them. -/
theorem Whole.magnitude? (written : Whole text w) (stops : Text.StopsAt (!endsWhole ·) z)
    (none : ',' ∉ z) (starts : ∃ c rest, text ++ z = c :: rest ∧ (c.isDigit = true ∨ c = '.'))
    (number : numeral? (w ++ z) = some m) (finite : m.toFloat.isFinite = true) :
    magnitude? (text ++ z) = some m.toFloat := by
  have grouped := written.isGrouped stops none
  have number : (Decimal.unsigned? ((text ++ z).filter (· != ','))).filter Float.isFinite =
    some m.toFloat := by
    rw [List.filter_append, written.filter, filter_of_not_mem none]
    exact unsigned?_filter_eq_some_iff.2 ⟨m, number, rfl, finite⟩
  obtain ⟨c, rest, eq, starts⟩ := starts
  rw [eq] at grouped number ⊢
  simp [NumericText.magnitude?, grouped, starts, number]

/-- Behind an exponent there is nothing, and before it nothing goes on with a fraction. -/
theorem Exponent.stops (h : Exponent z e) :
    Text.StopsAt Char.isDigit z ∧ Text.StopsAt (!endsWhole ·) z ∧ z.head? ≠ some '.' ∧ ',' ∉ z := by
  have comma : ',' ∉ z := fun mem => by
    rcases h.mem mem with digit | letter
    · exact absurd digit (by decide)
    · exact absurd letter (by decide)
  cases h with
  | absent => exact ⟨Text.stopsAt_nil, Text.stopsAt_nil, nofun, comma⟩
  | present isLetter isSign nonempty all =>
    simp only [Text.stopsAt_cons, List.head?_cons]
    refine ⟨?_, ?_, ?_, comma⟩ <;> rcases isLetter with rfl | rfl <;> decide

theorem Numeral.magnitude? (h : Numeral s m) (finite : m.toFloat.isFinite = true) :
    magnitude? s = some m.toFloat := by
  have starts := h.exists_cons
  cases h with
  | whole written nonempty exponent =>
    obtain ⟨digit, ends, point, comma⟩ := exponent.stops
    refine written.magnitude? ends comma starts ?_ finite
    rw [Decimal.numeral?_of_digits written.isDigits nonempty digit point,
      exponent?_eq_some_iff.2 exponent]
    rfl
  | @point text digits fraction behind e written all nonempty exponent =>
    obtain ⟨digit, ends, point, comma⟩ := exponent.stops
    rw [List.append_assoc] at starts ⊢
    have comma' : ',' ∉ '.' :: fraction ++ behind := by
      rw [List.cons_append, List.mem_cons, List.mem_append]
      exact not_or.2 ⟨by decide, not_or.2 ⟨not_mem_of_digits all (by decide), comma⟩⟩
    refine written.magnitude? (Text.stopsAt_cons.2 (by decide)) comma' starts ?_ finite
    rw [← List.append_assoc, Decimal.numeral?_of_point written.isDigits all nonempty digit,
      exponent?_eq_some_iff.2 exponent]
    rfl

/-- **Magnitudes.** A text is read as a magnitude exactly if it is a numeral, and finite. -/
theorem magnitude?_eq_some_iff :
    magnitude? s = some x ↔ ∃ m, Numeral s m ∧ m.toFloat = x ∧ x.isFinite = true := by
  constructor
  · intro h
    obtain ⟨w, z, rfl, before, stops⟩ := Text.exists_run (!endsWhole ·) s
    have before : ∀ c ∈ w, endsWhole c = false := fun c hc => by simpa using before c hc
    unfold magnitude? at h
    split at h
    next c rest eq =>
      split at h
      next starts =>
        -- The commas are checked on the text as it stands, and left out before it is read.
        obtain ⟨comma, commas⟩ := whole_of_isGrouped before stops (Bool.and_eq_true_iff.1 starts).2
        rw [List.filter_append, filter_of_not_mem comma, unsigned?_filter_eq_some_iff] at h
        obtain ⟨m, number, rfl, finite⟩ := h
        have all := digits_of_numeral? (fun c hc => before c (List.mem_of_mem_filter hc)) number
        exact ⟨m, (commas all).numeral stops number, rfl, finite⟩
      next => cases h
    next => cases h
  · rintro ⟨m, numeral, rfl, finite⟩
    exact numeral.magnitude? finite

end Spreadsheet.NumericText
