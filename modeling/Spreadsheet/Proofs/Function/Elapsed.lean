import Mathlib
import Spreadsheet.Proofs.Function.Serial

/-!
# `Proofs/Function/Elapsed.lean` — the time between two dates

`DATEDIF` counts the units that are complete between two dates. Months are counted through and one
is taken off if the day of the first date is not yet reached in the last month, so that what is
counted is the greatest number of months after which the same day of the month is not yet past,
whether that month has such a day or not. Years are twelve of these months, and that is the
difference of the years but for one that is not complete. None of the counts is below zero, and
none becomes less when the last date becomes later (`completed_units`).
-/

set_option autoImplicit false

namespace Spreadsheet.DateFunction

open Argument
open Lookup (Answers)

variable {engine : Regex.Engine} {a b c unit : Value} {first last later d : Date}

/-! ## Counts -/

/-- The last date is not before the first: a later month, or the same month and no earlier day. -/
def Ordered (first last : Date) : Prop :=
  toLex (first.monthIndex, first.day) ≤ toLex (last.monthIndex, last.day)

theorem ordered_iff : Ordered first last ↔
    first.monthIndex < last.monthIndex ∨ first.monthIndex = last.monthIndex ∧
    first.day ≤ last.day :=
  Prod.Lex.toLex_le_toLex

/-- The whole months between two dates are the greatest number of months after which the last date
is not yet past. -/
theorem wholeMonths_isGreatest {k : ℕ} (hk : wholeMonths first last = k) :
    IsGreatest {k : ℕ | toLex (first.monthIndex + k, first.day) ≤ toLex
      (last.monthIndex, last.day)} k := by
  unfold wholeMonths at hk
  constructor
  · rw [Set.mem_ofPred_eq, Prod.Lex.toLex_le_toLex]
    dsimp only
    split at hk <;> omega
  · intro j hj
    rw [Set.mem_ofPred_eq, Prod.Lex.toLex_le_toLex] at hj
    dsimp only at hj
    split at hk <;> omega

theorem wholeMonths_nonneg (ordered : Ordered first last) : 0 ≤ wholeMonths first last := by
  rw [ordered_iff] at ordered
  unfold wholeMonths
  split <;> omega

theorem wholeMonths_mono (ordered : Ordered last later) :
    wholeMonths first last ≤ wholeMonths first later := by
  rw [ordered_iff] at ordered
  unfold wholeMonths
  split <;> split <;> omega

/-- Twelve whole months are a year, and a year is not complete before the same day of the same
month. -/
theorem wholeMonths_div (valid : first.isValid = true) (valid' : last.isValid = true) :
    wholeMonths first last / 12 =
      last.year - first.year - if toLex (last.month, last.day) < toLex (first.month, first.day)
      then 1 else 0 := by
  obtain ⟨-, ⟨january, december⟩, -⟩ := Date.isValid_iff.1 valid
  obtain ⟨-, ⟨january', december'⟩, -⟩ := Date.isValid_iff.1 valid'
  have early : toLex (last.month, last.day) < toLex (first.month, first.day) ↔
      last.month < first.month ∨ last.month = first.month ∧ last.day < first.day :=
      Prod.Lex.toLex_lt_toLex
  unfold wholeMonths Date.monthIndex
  simp only [early]
  split <;> split <;> omega

theorem ordered_of_serial (valid : first.isValid = true) (valid' : last.isValid = true)
    (le : first.serial ≤ last.serial) :
    Ordered first last :=
  (Date.dayNumber_le_iff valid valid').1 (Int.sub_le_sub_right_iff.1 le)

/-- What the time between two dates is counted in. -/
inductive Span where
  | days
  | months
  | years

namespace Span

/-- The letter that asks for a count. -/
def letter : Span → String
  | days => "D"
  | months => "M"
  | years => "Y"

/-- How many are complete between two dates. -/
def count : Span → Date → Date → ℤ
  | days, first, last => last.serial - first.serial
  | months, first, last => wholeMonths first last
  | years, first, last => wholeMonths first last / 12

variable {span : Span}

/-- No count is below zero. -/
theorem count_nonneg (valid : first.isValid = true) (valid' : last.isValid = true)
    (le : first.serial ≤ last.serial) :
    0 ≤ span.count first last := by
  have months := wholeMonths_nonneg (ordered_of_serial valid valid' le)
  cases span with
  | days => exact Int.sub_nonneg.2 le
  | months => exact months
  | years => exact Int.ediv_nonneg months (by norm_num)

/-- No count becomes less when the last date becomes later. -/
theorem count_mono (valid : last.isValid = true) (valid' : later.isValid = true)
    (le : last.serial ≤ later.serial) :
    span.count first last ≤ span.count first later := by
  have months : wholeMonths first last ≤ wholeMonths first later :=
    wholeMonths_mono (ordered_of_serial valid valid' le)
  cases span with
  | days => exact Int.sub_le_sub_right le _
  | months => exact months
  | years => exact Int.ediv_le_ediv (by norm_num) months

/-- The calendar is not so long that a count would take more than 53 bits. -/
theorem count_lt (valid : first.isValid = true) (valid' : last.isValid = true) :
    (span.count first last).natAbs < 2 ^ 53 := by
  have days := serial_bound valid
  have days' := serial_bound valid'
  obtain ⟨years, months, -⟩ := Date.isValid_iff.1 valid
  obtain ⟨years', months', -⟩ := Date.isValid_iff.1 valid'
  unfold Calendar.firstYear Calendar.lastYear at years years'
  -- Ten thousand years have fewer days than that, let alone months.
  cases span with
  | days =>
    show (last.serial - first.serial).natAbs < _
    omega
  | months =>
    show (wholeMonths first last).natAbs < _
    unfold wholeMonths Date.monthIndex
    split <;> omega
  | years =>
    show (wholeMonths first last / 12).natAbs < _
    unfold wholeMonths Date.monthIndex
    split <;> omega

end Span

/-! ## Answers -/

/-- An argument stands for a date. -/
def StandsFor (v : Value) (d : Date) : Prop := dateOf v.unwrap = .ok d

/-- An argument is a letter, large or small and with white space around it or without. -/
def Spells (v : Value) (letter : String) : Prop :=
  ∃ u, v.unwrap.toText = .ok u ∧ Text.latinUpper (Text.trimmed u) = letter

theorem isValid_of_read? {s : List Char} (h : Date.read? s = some d) : d.isValid = true := by
  unfold Date.read? at h
  obtain ⟨⟨year, rest⟩, -, h⟩ := Option.bind_eq_some_iff.1 h
  obtain ⟨⟨month, rest⟩, -, h⟩ := Option.bind_eq_some_iff.1 h
  obtain ⟨⟨day, rest⟩, -, h⟩ := Option.bind_eq_some_iff.1 h
  dsimp only at h
  split at h
  next => exact (Date.ofParts?_eq_some_iff.1 h).1
  next => cases h

theorem isValid_of_ofNumber? {x : Float} (h : Date.ofNumber? x = some d) : d.isValid = true := by
  unfold Date.ofNumber? at h
  split at h
  next => exact (ofSerial?_eq_some_iff.1 h).1
  next => cases h

/-- What stands for a date stands for one that there is. -/
theorem StandsFor.isValid (h : StandsFor a d) : d.isValid = true := by
  unfold StandsFor dateOf at h
  dsimp only at h
  split at h
  next written =>
    cases h
    split at written
    next => exact isValid_of_read? written
    next => cases written
  next =>
    obtain ⟨x, -, h⟩ := exists_of_bind_eq_ok h
    split at h
    next found =>
      cases h
      exact isValid_of_ofNumber? found
    next => cases h

theorem StandsFor.plain (h : StandsFor a d) : a.unwrap.error? = none := by
  have passes (e : ErrorCode) : dateOf (.error e) = .error e := rfl
  exact Lookup.error?_of_ok passes h

/-- Two dates in order and the letter of a count give this count. -/
theorem difference_of_le {span : Span} {u : String} (ha : dateOf a = .ok first)
    (hb : dateOf b = .ok last) (hu : unit.toText = .ok u)
    (letter : Text.latinUpper (Text.trimmed u) = span.letter) (le : first.serial ≤ last.serial) :
    difference [a, b, unit] = .ok (Float.ofInt (span.count first last)) := by
  have order : ¬ last.dayNumber < first.dayNumber := not_lt.2 (Int.sub_le_sub_right_iff.1 le)
  have days : last.serial - first.serial = last.dayNumber - first.dayNumber :=
    sub_sub_sub_cancel_right _ _ _
  simp only [difference, ha, hb, hu, bind, Except.bind, if_neg order, letter]
  cases span with
  | days => exact congrArg (fun n => Except.ok (Float.ofInt n)) days.symm
  | months | years => rfl

/-- Two dates out of order give an error. -/
theorem difference_of_lt {u : String} (ha : dateOf a = .ok first) (hb : dateOf b = .ok last)
    (hu : unit.toText = .ok u) (less : last.serial < first.serial) :
    difference [a, b, unit] = .error .typeMismatch := by
  have order : last.dayNumber < first.dayNumber := Int.sub_lt_sub_right_iff.1 less
  simp only [difference, ha, hb, hu, bind, Except.bind, if_pos order]

/-- `DATEDIF` answers to two dates and a text. -/
theorem answers_difference (engine : Regex.Engine) {u : String} (ha : StandsFor a first)
    (hb : StandsFor b last) (hu : unit.unwrap.toText = .ok u) :
    Answers engine "DATEDIF" [a, b, unit]
    (numberResult (difference [a.unwrap, b.unwrap, unit.unwrap])) := by
  have library : (Registry.library engine).find? "DATEDIF" =
      some (.ofArguments "DATEDIF" (.exactly 3) .scalar (numberResult ∘ difference)) :=
    find?_library (by simp [Function.library, functions]) rfl
  refine Lookup.answers_of_apply library rfl (Lookup.apply_scalar ?_)
  simp only [List.forall_mem_cons]
  exact ⟨ha.plain, hb.plain, Lookup.error?_of_ok (fun _ => rfl) hu, List.forall_mem_nil _⟩

/-- `DATEDIF` answers with the count that is asked for. -/
theorem answers_count (engine : Regex.Engine) {span : Span} (ha : StandsFor a first)
    (hb : StandsFor b last) (hu : Spells unit span.letter) (le : first.serial ≤ last.serial) :
    Answers engine "DATEDIF" [a, b, unit] (.number (Float.ofInt (span.count first last))) := by
  obtain ⟨u, text, letter⟩ := hu
  have answer := answers_difference engine ha hb text
  rw [difference_of_le ha hb text letter le] at answer
  rw [← numberResult_ofInt (Span.count_lt ha.isValid hb.isValid)]
  exact answer

theorem ofInt_le_ofInt {x y : ℤ} (nonneg : 0 ≤ x) (le : x ≤ y) (small : y.natAbs < 2 ^ 53) :
    Float.ofInt x ≤ Float.ofInt y := by
  obtain ⟨m, rfl⟩ := Int.eq_ofNat_of_zero_le nonneg
  obtain ⟨n, rfl⟩ := Int.eq_ofNat_of_zero_le (nonneg.trans le)
  exact (Binary64.ofNat_le_ofNat_iff (by omega) (by omega)).2 (by omega)

/-- **`DATEDIF` counts completed units.** To two dates in order it answers, letter by letter, with
the greatest number of months after which the last date is not yet past, the day of the month as
it is; with the difference of the years, less one if the last date comes earlier in its year than
the first in its own; and with the difference of the serials. When the last date becomes later no
answer becomes less. To two dates out of order it answers with an error, whatever the unit. -/
theorem completed_units (engine : Regex.Engine) (ha : StandsFor a first) :
    (∀ {b last}, StandsFor b last → first.serial ≤ last.serial → ∃ months years days : ℕ,
      (∀ {unit}, Spells unit "M" →
        Answers engine "DATEDIF" [a, b, unit] (.number (Float.ofNat months))) ∧
      (∀ {unit}, Spells unit "Y" →
        Answers engine "DATEDIF" [a, b, unit] (.number (Float.ofNat years))) ∧
      (∀ {unit}, Spells unit "D" →
        Answers engine "DATEDIF" [a, b, unit] (.number (Float.ofNat days))) ∧
      IsGreatest {k : ℕ | toLex (first.monthIndex + k, first.day) ≤ toLex
        (last.monthIndex, last.day)} months ∧
      (years : ℤ) = last.year - first.year -
        (if toLex (last.month, last.day) < toLex (first.month, first.day) then 1 else 0) ∧
      (days : ℤ) = last.serial - first.serial) ∧
    (∀ {b c last later unit letter x y}, StandsFor b last → StandsFor c later →
        first.serial ≤ last.serial →
      last.serial ≤ later.serial → letter ∈ ["D", "M", "Y"] → Spells unit letter →
      Answers engine "DATEDIF" [a, b, unit] (.number x) →
      Answers engine "DATEDIF" [a, c, unit] (.number y) → x ≤ y) ∧
    (∀ {b last unit u}, StandsFor b last → last.serial < first.serial → unit.unwrap.toText = .ok u →
      Answers engine "DATEDIF" [a, b, unit] (.error .typeMismatch)) := by
  have valid := ha.isValid
  refine ⟨?_, ?_, ?_⟩
  · intro b last hb le
    have count (span : Span) : ∃ k : ℕ, span.count first last = k ∧
        ∀ {unit}, Spells unit span.letter →
        Answers engine "DATEDIF" [a, b, unit] (.number (Float.ofNat k)) := by
      -- Dates in order have no negative count, so it is a natural number that is answered with.
      have nonneg : 0 ≤ span.count first last := Span.count_nonneg valid hb.isValid le
      obtain ⟨k, hk⟩ := Int.eq_ofNat_of_zero_le nonneg
      refine ⟨k, hk, fun {unit} hu => ?_⟩
      have answer := answers_count engine ha hb hu le
      rw [hk] at answer
      exact answer
    obtain ⟨months, hm, monthly⟩ := count .months
    obtain ⟨years, hy, yearly⟩ := count .years
    obtain ⟨days, hd, daily⟩ := count .days
    exact ⟨months, years, days, monthly, yearly, daily, wholeMonths_isGreatest hm,
      hy.symm.trans (wholeMonths_div valid hb.isValid), hd.symm⟩
  · intro b c last later unit letter x y hb hc le le' mem hu hx hy
    obtain ⟨span, rfl⟩ : ∃ span : Span, span.letter = letter := by
      simp only [List.mem_cons, List.not_mem_nil, or_false] at mem
      rcases mem with rfl | rfl | rfl
      · exact ⟨.days, rfl⟩
      · exact ⟨.months, rfl⟩
      · exact ⟨.years, rfl⟩
    cases hx.unique (answers_count engine ha hb hu le)
    cases hy.unique (answers_count engine ha hc hu (le.trans le'))
    exact ofInt_le_ofInt (Span.count_nonneg valid hb.isValid le)
      (Span.count_mono hb.isValid hc.isValid le')
      (Span.count_lt valid hc.isValid)
  · intro b last unit u hb less hu
    have answer := answers_difference engine ha hb hu
    rw [difference_of_lt ha hb hu less] at answer
    exact answer

/-- The theorem at the last day of a month, which the next month does not have. -/
theorem completed_units_from_last_of_january :
    StandsFor (.text "2020-01-31") ⟨2020, 1, 31⟩ ∧
    Answers .standard "DATEDIF" [.text "2020-01-31", .text "2020-02-29", .text "M"]
    (.number (Float.ofNat 0)) := by
  have ha : StandsFor (.text "2020-01-31") ⟨2020, 1, 31⟩ := by unfold StandsFor; decide +kernel
  have hb : StandsFor (.text "2020-02-29") ⟨2020, 2, 29⟩ := by unfold StandsFor; decide +kernel
  obtain ⟨months, -, -, monthly, -, -, greatest, -, -⟩ :=
    (completed_units .standard ha).1 hb (by decide +kernel)
  have none : months = 0 := by
    have reached := greatest.1
    rw [Set.mem_ofPred_eq, Prod.Lex.toLex_le_toLex] at reached
    simp only [Date.monthIndex] at reached
    omega
  subst none
  exact ⟨ha, monthly ⟨"M", rfl, by decide +kernel⟩⟩

end Spreadsheet.DateFunction
