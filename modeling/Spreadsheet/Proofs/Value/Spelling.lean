import Mathlib
import Spreadsheet.Proofs.Text.Characters
import Spreadsheet.Proofs.Value.Numeral

/-!
# `Proofs/Value/Spelling.lean` — texts that look like numbers

A number may be written with a sign, a currency sign and a percent sign, with white space between
them. Each step of the reader takes one of these off the text. What it takes off and what it
leaves make up the text again, and it takes off all that it can, so that the text is read exactly
if it can be put together from such parts, and then as they say (`numbers_as_written`). There is
one way to put them together that is not read: white space may stand behind a minus sign and
before a currency sign, but not behind a plus sign.

The parts are fields of a record, each with what may stand in it, so that what is proved of a text
is proved field by field. A spelling has a value of its own, and reading comes to that value.
-/

set_option autoImplicit false

namespace Spreadsheet.NumericText

open Decimal (Scaled)

/-! ## Spellings -/

/-- A text is white space, if it is not empty. -/
def Blanks (s : List Char) : Prop := ∀ c ∈ s, Text.isBlank c = true

/-- What may stand behind a numeral: nothing, or a percent sign with white space before it. -/
def ending : Option (List Char) → List Char
  | none => []
  | some gap => gap ++ ['%']

/-- A number as it may be written, part by part. -/
structure Spelling where
  sign : Option Char
  gap : List Char
  currency : Option Char
  space : List Char
  numeral : List Char
  magnitude : Scaled
  /-- The white space before a percent sign, if there is one. -/
  percent : Option (List Char)
  isSign : IsSign sign
  isGap : Blanks gap
  isCurrency : ∀ c ∈ currency, isCurrency c = true
  isSpace : Blanks space
  isNumeral : Numeral numeral magnitude
  finite : magnitude.toFloat.isFinite = true
  isPercent : ∀ gap ∈ percent, Blanks gap

namespace Spelling

/-- The numeral, and the percent sign behind it. -/
def core (p : Spelling) : List Char := p.numeral ++ ending p.percent

def text (p : Spelling) : List Char :=
  p.sign.toList ++ (p.gap ++ (p.currency.toList ++ (p.space ++ p.core)))

/-- What a spelling says. -/
def value (p : Spelling) : Float :=
  let x := p.magnitude.toFloat
  let x := if p.percent.isSome then x / 100.0 else x
  if p.sign = some '-' then -x else x

/-- White space keeps a plus sign and a currency sign apart. -/
def Apart (p : Spelling) : Prop := p.sign = some '+' ∧ p.gap ≠ [] ∧ p.currency ≠ none

end Spelling

variable {c : Char} {s t z gap space : List Char} {currency : Option Char} {m : Scaled} {x : Float}

/-! ## Characters -/

theorem isCurrency_spec (h : isCurrency c = true) :
    Text.isBlank c = false ∧ c.isDigit = false ∧ c ∉ [',', '.', 'e', 'E', '+', '-', '%'] := by
  simp only [isCurrency, Bool.or_eq_true, beq_iff_eq] at h
  rcases h with ((rfl | rfl) | rfl) | rfl <;> decide

theorem isCurrency_of_isBlank (blank : Text.isBlank c = true) : isCurrency c = false := by
  refine Bool.eq_false_iff.2 fun currency => ?_
  rw [(isCurrency_spec currency).1] at blank
  cases blank

/-- What a numeral is written with is nothing that may stand around it. -/
theorem Numeral.visible (h : Numeral s m) (hc : c ∈ s) :
    Text.isBlank c = false ∧ isCurrency c = false ∧ c ≠ '%' := by
  have written := h.mem hc
  refine ⟨Bool.eq_false_iff.2 fun blank => ?_, Bool.eq_false_iff.2 fun currency => ?_, ?_⟩
  · rcases written with digit | letter
    · rw [(Text.blank_breaks blank).1] at digit
      cases digit
    · simp only [List.mem_cons, List.not_mem_nil, or_false] at letter
      rcases letter with rfl | rfl | rfl | rfl | rfl | rfl <;> exact absurd blank (by decide)
  · obtain ⟨-, noDigit, noLetter⟩ := isCurrency_spec currency
    -- A numeral is written with digits, points, commas, signs and the letter of an exponent.
    rcases written with digit | letter
    · rw [noDigit] at digit
      cases digit
    · refine noLetter ?_
      simp only [List.mem_cons, List.not_mem_nil, or_false] at letter ⊢
      tauto
  · rintro rfl
    rcases written with digit | letter
    · exact absurd digit (by decide)
    · exact absurd letter (by decide)

/-- White space behind what is visible is trimmed, and no more. -/
theorem trimEnd_blanks (visible : Text.StopsAt Text.isBlank s.reverse) (blanks : Blanks z) :
    Text.trimEnd (s ++ z) = s := by
  have blanks : ∀ c ∈ z.reverse, Text.isBlank c = true :=
    fun c hc => blanks c (List.mem_reverse.1 hc)
  unfold Text.trimEnd
  rw [List.reverse_append, Text.dropWhile_append_of_all blanks visible, List.reverse_reverse]

theorem trimStart_blanks (blanks : Blanks s) (visible : Text.StopsAt Text.isBlank z) :
    Text.trimStart (s ++ z) = z :=
  Text.dropWhile_append_of_all blanks visible

/-! ## What is read off a spelling -/

/-- White space in front of what is neither white space nor a currency sign is dropped. -/
theorem dropCurrency_blanks (blanks : Blanks s) (visible : Text.StopsAt Text.isBlank z)
    (other : Text.StopsAt isCurrency z) :
    dropCurrency (s ++ z) = z := by
  have none : Text.StopsAt isCurrency (s ++ z) := by
    cases s with
    | nil => exact other
    | cons c s => exact Text.stopsAt_cons.2 (isCurrency_of_isBlank (blanks c List.mem_cons_self))
  have trimmed := trimStart_blanks blanks visible
  cases eq : s ++ z with
  | nil =>
    rw [eq] at trimmed
    exact trimmed
  | cons c rest =>
    rw [eq] at trimmed none
    rw [dropCurrency, if_neg (by simp [Text.stopsAt_cons.1 none]), trimmed]

theorem dropCurrency_spelled (isCurrency : ∀ c ∈ currency, isCurrency c = true)
    (blanks : Blanks space) (visible : Text.StopsAt Text.isBlank z)
    (other : Text.StopsAt NumericText.isCurrency z) :
    dropCurrency (currency.toList ++ (space ++ z)) = z := by
  cases currency with
  | some c =>
    show Text.trimStart (if NumericText.isCurrency c then space ++ z else _) = z
    rw [if_pos (isCurrency c rfl), trimStart_blanks blanks visible]
  | none => exact dropCurrency_blanks blanks visible other

theorem splitSign_of_stops (stops : Text.StopsAt (fun c => c == '-' || c == '+') s) :
    splitSign s = (false, s) := by
  unfold splitSign
  split
  next => exact absurd (Text.stopsAt_cons.1 stops) (by decide)
  next => exact absurd (Text.stopsAt_cons.1 stops) (by decide)
  next => rfl

namespace Spelling

variable {p : Spelling}

/-- What the numeral starts with is no white space, no currency sign and no sign. -/
theorem core_starts (p : Spelling) :
    Text.StopsAt Text.isBlank p.core ∧ Text.StopsAt NumericText.isCurrency p.core ∧
    Text.StopsAt (fun c => c == '-' || c == '+') p.core := by
  obtain ⟨c, rest, eq, starts⟩ := p.isNumeral.exists_cons
  obtain ⟨visible, currency, -⟩ := p.isNumeral.visible (c := c) (eq ▸ List.mem_cons_self)
  unfold core
  rw [eq, List.cons_append]
  simp only [Text.stopsAt_cons]
  refine ⟨visible, currency, ?_⟩
  rw [Bool.or_eq_false_iff, beq_eq_false_iff_ne, beq_eq_false_iff_ne]
  constructor <;> rintro rfl <;> exact absurd starts (by decide)

theorem splitPercent_core (p : Spelling) : splitPercent p.core = (p.percent.isSome, p.numeral) := by
  unfold splitPercent core
  cases hp : p.percent with
  | none =>
    have none : ¬ p.numeral.getLast? = some '%' := fun last =>
      (p.isNumeral.visible (List.mem_of_getLast? last)).2.2 rfl
    rw [ending, List.append_nil, if_neg none]
    rfl
  | some gap =>
    have visible : Text.StopsAt Text.isBlank p.numeral.reverse :=
      Text.stopsAt_of_forall fun c hc => (p.isNumeral.visible (List.mem_reverse.1 hc)).1
    rw [ending, ← List.append_assoc, if_pos List.getLast?_concat, List.dropLast_concat,
      trimEnd_blanks visible (p.isPercent gap hp)]
    rfl

/-- Untrimmed, white space makes no difference to what is left unless a currency sign follows it. -/
theorem dropCurrency_gap (p : Spelling) (h : p.gap = [] ∨ p.currency = none) :
    dropCurrency (p.gap ++ (p.currency.toList ++ (p.space ++ p.core))) = p.core := by
  obtain ⟨visible, other, -⟩ := p.core_starts
  rcases h with first | uncurrent
  · rw [first, List.nil_append]
    exact dropCurrency_spelled p.isCurrency p.isSpace visible other
  · rw [uncurrent, Option.toList_none, List.nil_append, ← List.append_assoc]
    exact dropCurrency_blanks (List.forall_mem_append.2 ⟨p.isGap, p.isSpace⟩) visible other

/-- Trimmed, it makes no difference at all. -/
theorem dropCurrency_trimStart (p : Spelling) :
    dropCurrency (Text.trimStart (p.gap ++ (p.currency.toList ++ (p.space ++ p.core)))) =
    p.core := by
  obtain ⟨visible, other, -⟩ := p.core_starts
  cases hc : p.currency with
  | some c =>
    have whole := dropCurrency_spelled p.isCurrency p.isSpace visible other
    rw [hc] at whole
    rw [trimStart_blanks p.isGap]
    · exact whole
    · exact Text.stopsAt_cons.2 (isCurrency_spec (p.isCurrency c hc)).1
  | none =>
    have blanks : Blanks (p.gap ++ p.space) := List.forall_mem_append.2 ⟨p.isGap, p.isSpace⟩
    rw [Option.toList_none, List.nil_append, ← List.append_assoc, trimStart_blanks blanks visible]
    exact dropCurrency_blanks (s := []) nofun visible other

/-- Without a sign nothing in front of the numeral looks like one. -/
theorem unsigned (p : Spelling) :
    Text.StopsAt (fun c => c == '-' || c == '+')
    (p.gap ++ (p.currency.toList ++ (p.space ++ p.core))) := by
  have noSign {c : Char} (plus : c ≠ '+') (minus : c ≠ '-') : (c == '-' || c == '+') = false := by
    simp [plus, minus]
  have blank {space z : List Char} (blanks : Blanks space)
    (stops : Text.StopsAt (fun c => c == '-' || c == '+') z) :
      Text.StopsAt (fun c => c == '-' || c == '+') (space ++ z) := by
    cases space with
    | nil => exact stops
    | cons c space =>
      have breaks := (Text.blank_breaks (blanks c List.mem_cons_self)).2.2.2.2
      exact Text.stopsAt_cons.2
        (noSign (by rintro rfl; simp at breaks) (by rintro rfl; simp at breaks))
  refine blank p.isGap ?_
  cases hc : p.currency with
  | some c =>
    obtain ⟨-, -, other⟩ := isCurrency_spec (p.isCurrency c hc)
    exact Text.stopsAt_cons.2 (noSign (by rintro rfl; simp at other) (by rintro rfl; simp at other))
  | none =>
    rw [Option.toList_none, List.nil_append]
    exact blank p.isSpace p.core_starts.2.2

/-- The sign and the currency sign come off a spelling that is trimmed, if no white space keeps
them apart. -/
theorem splitSign_text (trimmed : Text.StopsAt Text.isBlank p.text) (together : ¬ p.Apart) :
    ∃ rest, splitSign p.text = (decide (p.sign = some '-'), rest) ∧ dropCurrency rest = p.core := by
  have unsigned := p.unsigned
  have unspaced := p.dropCurrency_gap
  have spaced := p.dropCurrency_trimStart
  unfold Apart at together
  unfold text at trimmed ⊢
  rcases sign : p.sign with _ | sign'
  · -- What is trimmed does not start with white space, so there is none without a sign before it.
    have first : p.gap = [] := by
      rw [sign] at trimmed
      rcases gap : p.gap with _ | ⟨c, gap'⟩
      · rfl
      · rw [gap] at trimmed
        have blank := p.isGap c (gap ▸ List.mem_cons_self)
        rw [Text.stopsAt_cons.1 trimmed] at blank
        cases blank
    exact ⟨_, splitSign_of_stops unsigned, unspaced (.inl first)⟩
  · rcases p.isSign sign' sign with rfl | rfl
    · refine ⟨_, rfl, unspaced ?_⟩
      by_contra both
      exact together ⟨sign, not_or.1 both⟩
    · exact ⟨_, rfl, spaced⟩

/-- A spelling is read as what it says. -/
theorem read?_text (trimmed : Text.trim s = p.text) (together : ¬ p.Apart) :
    read? s = some p.value := by
  obtain ⟨rest, signed, dropped⟩ := splitSign_text (trimmed ▸ Text.stopsAt_trim s) together
  unfold read?
  rw [trimmed, signed]
  dsimp only
  rw [dropped, splitPercent_core]
  dsimp only
  rw [p.isNumeral.magnitude? p.finite]
  simp [value]

end Spelling

/-! ## What a text is put together from -/

theorem exists_dropCurrency (s : List Char) : ∃ (currency : Option Char) (space : List Char),
    (∀ c ∈ currency, isCurrency c = true) ∧ Blanks space ∧
    s = currency.toList ++ (space ++ dropCurrency s) := by
  cases s with
  | nil => exact ⟨none, [], nofun, nofun, rfl⟩
  | cons c rest =>
    by_cases currency : isCurrency c = true
    · refine ⟨some c, rest.takeWhile Text.isBlank, by simpa using currency,
        fun b hb => List.mem_takeWhile_imp hb, ?_⟩
      rw [dropCurrency, if_pos currency, Text.trimStart, List.takeWhile_append_dropWhile]
      rfl
    · refine ⟨none, (c :: rest).takeWhile Text.isBlank, nofun,
        fun b hb => List.mem_takeWhile_imp hb, ?_⟩
      rw [dropCurrency, if_neg currency, Text.trimStart, List.takeWhile_append_dropWhile]
      rfl

theorem of_splitPercent {hundredth : Bool} (h : splitPercent s = (hundredth, t)) :
    ∃ percent : Option (List Char),
    (∀ gap ∈ percent, Blanks gap) ∧ hundredth = percent.isSome ∧ s = t ++ ending percent := by
  unfold splitPercent at h
  split at h
  next last =>
    cases h
    obtain ⟨front, rfl⟩ := List.getLast?_eq_some_iff.1 last
    obtain ⟨gap, split, blanks⟩ := Text.trimEnd_append front
    refine ⟨some gap, fun _ hg => Option.some.inj hg ▸ blanks, rfl, ?_⟩
    rw [List.dropLast_concat, ending, ← List.append_assoc]
    exact congrArg (· ++ ['%']) split
  next =>
    cases h
    exact ⟨none, nofun, rfl, (List.append_nil s).symm⟩

/-- White space is taken off behind a minus sign only. -/
theorem of_splitSign {negative : Bool} (h : splitSign s = (negative, t)) :
    ∃ (sign : Option Char) (gap : List Char),
    IsSign sign ∧ Blanks gap ∧ negative = decide (sign = some '-') ∧ s = sign.toList ++ (gap ++ t) ∧
      (sign = some '+' → gap = []) := by
  unfold splitSign at h
  split at h
  -- Only behind a minus sign blanks are taken off.
  next rest =>
    cases h
    refine ⟨some '-', rest.takeWhile Text.isBlank, by simp [IsSign],
      fun b hb => List.mem_takeWhile_imp hb, rfl, ?_, by simp⟩
    rw [Text.trimStart, List.takeWhile_append_dropWhile]
    rfl
  next =>
    cases h
    exact ⟨some '+', [], by simp [IsSign], List.forall_mem_nil _, rfl, rfl, fun _ => rfl⟩
  next =>
    cases h
    exact ⟨none, [], by simp [IsSign], List.forall_mem_nil _, rfl, rfl, fun _ => rfl⟩

/-- What is read is a spelling. -/
theorem exists_of_read? (h : read? s = some x) :
    ∃ p : Spelling, p.text = Text.trim s ∧ ¬ p.Apart ∧ p.value = x := by
  unfold read? at h
  rcases signed : splitSign (Text.trim s) with ⟨negative, behind⟩
  rcases scaled : splitPercent (dropCurrency behind) with ⟨hundredth, numeral⟩
  rw [signed] at h
  dsimp only at h
  rw [scaled] at h
  obtain ⟨y, read, value⟩ := Option.map_eq_some_iff.1 h
  obtain ⟨magnitude, isNumeral, rfl, finite⟩ := magnitude?_eq_some_iff.1 read
  obtain ⟨sign, gap, isSign, isGap, rfl, trimmed, plus⟩ := of_splitSign signed
  obtain ⟨currency, space, isCurrency, isSpace, rest⟩ := exists_dropCurrency behind
  obtain ⟨percent, isPercent, rfl, core⟩ := of_splitPercent scaled
  -- Each step has given one part of the spelling.
  let p : Spelling := ⟨sign, gap, currency, space, numeral, magnitude, percent, isSign, isGap,
    isCurrency, isSpace, isNumeral, finite, isPercent⟩
  refine ⟨p, ?_, fun apart => apart.2.1 (plus apart.1), ?_⟩
  · rw [trimmed, rest, core]
    rfl
  · rw [← value]
    simp [Spelling.value, p]

/-! ## Signs -/

/-- White space, and a currency sign behind it. -/
def Parted (t : List Char) : Prop :=
  ∃ gap c rest, t = gap ++ c :: rest ∧ gap ≠ [] ∧ Blanks gap ∧ isCurrency c = true

/-- The number that a text looks like behind its sign. -/
def unsigned? (s : List Char) : Option Float :=
  (magnitude? (splitPercent (dropCurrency s)).2).map fun x => if (splitPercent (dropCurrency s)).1
    then x / 100.0 else x

theorem trim_cons (visible : Text.isBlank c = false) :
    Text.trim (c :: t) = c :: Text.trimEnd t := by
  rw [Text.trim, Text.trimStart, List.dropWhile_cons_of_neg (by simp [visible]),
    Text.trimEnd_cons visible]

theorem read?_plus : read? ('+' :: t) = unsigned? (Text.trimEnd t) := by
  unfold read? unsigned?
  rw [trim_cons (by decide)]
  simp [splitSign]

theorem read?_minus :
    read? ('-' :: t) = (unsigned? (Text.trimStart (Text.trimEnd t))).map Neg.neg := by
  unfold read? unsigned?
  rw [trim_cons (by decide), Option.map_map]
  simp [splitSign, Function.comp_def]

theorem parted_trimEnd : Parted (Text.trimEnd t) ↔ Parted t := by
  obtain ⟨z, split, blanks⟩ := Text.trimEnd_append t
  constructor
  · rintro ⟨gap, c, rest, eq, parts⟩
    refine ⟨gap, c, rest ++ z, ?_, parts⟩
    rw [split, eq, List.append_assoc, List.cons_append]
  · rintro ⟨gap, c, rest, eq, nonempty, isGap, currency⟩
    -- A currency sign is no blank, so trimming has left it there.
    have visible : c ∉ z := fun mem => by
      rw [isCurrency_of_isBlank (blanks c mem)] at currency
      cases currency
    rw [split] at eq
    rcases List.append_eq_append_iff.1 eq with ⟨behind, -, h⟩ | ⟨behind, h, h'⟩
    · exact absurd (h ▸ List.mem_append_right _ List.mem_cons_self) visible
    · cases behind with
      | nil => exact absurd ((show c :: rest = z from h') ▸ List.mem_cons_self) visible
      | cons d behind =>
        cases h'
        exact ⟨gap, c, behind, h, nonempty, isGap, currency⟩

theorem dropCurrency_trimStart (together : ¬ Parted s) :
    dropCurrency (Text.trimStart s) = dropCurrency s := by
  obtain ⟨gap, rest, rfl, blanks, visible⟩ := Text.exists_run Text.isBlank s
  rw [trimStart_blanks blanks visible]
  by_cases nonempty : gap = []
  · rw [nonempty, List.nil_append]
  · have other : Text.StopsAt isCurrency rest := by
      intro c hc
      refine Bool.eq_false_iff.2 fun currency => together ?_
      obtain ⟨rest, rfl⟩ := List.head?_eq_some_iff.1 hc
      exact ⟨gap, c, rest, rfl, nonempty, blanks, currency⟩
    exact (dropCurrency_blanks (s := []) nofun visible other).trans
      (dropCurrency_blanks blanks visible other).symm

theorem splitPercent_cons (visible : Text.isBlank c = false) (other : c ≠ '%') :
    ∃ z, (splitPercent (c :: t)).2 = c :: z := by
  unfold splitPercent
  split
  next last =>
    cases t with
    | nil => exact absurd (Option.some.inj last) other
    | cons d t => exact ⟨_, Text.trimEnd_cons visible⟩
  next => exact ⟨t, rfl⟩

/-- White space in front of a currency sign is dropped, but not the currency sign. -/
theorem unsigned?_of_parted (parted : Parted t) : unsigned? t = none := by
  obtain ⟨gap, c, rest, rfl, nonempty, blanks, currency⟩ := parted
  obtain ⟨visible, noDigit, other⟩ := isCurrency_spec currency
  obtain ⟨b, gap, rfl⟩ := List.exists_cons_of_ne_nil nonempty
  have first := isCurrency_of_isBlank (blanks b List.mem_cons_self)
  have kept : dropCurrency (b :: gap ++ c :: rest) = c :: rest := by
    rw [List.cons_append, dropCurrency, if_neg (by simp [first]), ← List.cons_append,
      trimStart_blanks blanks (Text.stopsAt_cons.2 visible)]
  obtain ⟨z, eq⟩ := splitPercent_cons (t := rest) visible (by rintro rfl; simp at other)
  have point : c ≠ '.' := by rintro rfl; simp at other
  unfold unsigned?
  rw [kept, eq, magnitude?, if_neg (by simp [noDigit, point])]
  rfl

/-- **Texts that look like numbers.** A text reads as a number exactly if it is, but for white
space around it, put together from a sign, a currency sign, a numeral and a percent sign, with
white space between them as it may be, and it reads as what these say. No white space may keep a
plus sign and a currency sign apart. So behind a minus sign a text reads as the negative of what
it does behind a plus sign, except where white space and a currency sign follow: behind a plus
sign it does not read as a number there. -/
theorem numbers_as_written (s : List Char) :
    (∀ x, read? s = some x ↔ ∃ p : Spelling, p.text = Text.trim s ∧ ¬ p.Apart ∧ p.value = x) ∧
    (¬ Parted s → read? ('-' :: s) = (read? ('+' :: s)).map Neg.neg) ∧
    (Parted s → read? ('+' :: s) = none) := by
  refine ⟨fun x => ⟨exists_of_read?, ?_⟩, fun together => ?_, fun parted => ?_⟩
  · rintro ⟨p, spelled, together, rfl⟩
    exact Spelling.read?_text spelled.symm together
  · rw [read?_minus, read?_plus, unsigned?, dropCurrency_trimStart (mt parted_trimEnd.1 together)]
    rfl
  · rw [read?_plus, unsigned?_of_parted (parted_trimEnd.2 parted)]

/-- The theorem at an amount with all the parts, at a plain number, and at white space that keeps
signs apart. -/
theorem numbers_as_written_of_amount :
    (∃ p : Spelling, p.text = "- $ 1,234.5 %".toList ∧ ¬ p.Apart ∧ p.value = -12.345) ∧
    (¬ Parted "5".toList ∧ read? "-5".toList = (read? "+5".toList).map Neg.neg) ∧
    (Parted " $5".toList ∧ read? "+ $5".toList = none) := by
  have read : read? "- $ 1,234.5 %".toList = some (-12.345) := by decide +kernel
  have trimmed : Text.trim "- $ 1,234.5 %".toList = "- $ 1,234.5 %".toList := by decide +kernel
  have together : ¬ Parted "5".toList := by
    rintro ⟨_ | ⟨b, gap⟩, c, rest, eq, nonempty, blanks, -⟩
    · exact nonempty rfl
    · obtain ⟨rfl, -⟩ := List.cons.inj eq
      exact absurd (blanks '5' List.mem_cons_self) (by decide +kernel)
  have parted : Parted " $5".toList :=
    ⟨[' '], '$', ['5'], rfl, by decide, List.forall_mem_singleton.2 (by decide +kernel), rfl⟩
  exact ⟨trimmed ▸ ((numbers_as_written _).1 _).1 read,
    ⟨together, (numbers_as_written _).2.1 together⟩, parted, (numbers_as_written _).2.2 parted⟩

/-- White space may stand behind a minus sign and before a currency sign, but not behind a plus
sign. -/
theorem space_behind_plus_is_refused :
    read? "- $5".toList = some (-5.0) ∧ read? "+ $5".toList = none := by
  decide +kernel

end Spreadsheet.NumericText
