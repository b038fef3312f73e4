import Mathlib
import Spreadsheet.Proofs.Calendar
import Spreadsheet.Proofs.Function.Answer
import Spreadsheet.Proofs.Function.Finite
import Spreadsheet.Proofs.Number.Rank

/-!
# `Proofs/Function/Serial.lean` — serials that are read back

`DATE` rolls months and days over before it looks at the date that it has made, and then only asks
that it is not before day zero. `YEAR`, `MONTH` and `DAY` take no serial beyond the last day of
the year 9999. Up to that day what `DATE` makes is read back, and is made again from what is read;
a serial beyond it is a number that stands for no date (`dates_read_back`,
`rolled_date_is_unreadable`).

The number of a serial is exact, since there are fewer days than 53 bits can count, and so what is
read from it are the parts of the date itself and not of one near it.
-/

set_option autoImplicit false

namespace Spreadsheet.DateFunction

open Argument
open Lookup (Answers)

variable {engine : Regex.Engine} {d : Date} {n k : ℕ} {s x : Float} {v : Value} {args : List Value}

/-! ## Serials -/

/-- A date from day zero on has a natural number for its serial, of far less than 53 bits. -/
theorem exists_serial (valid : d.isValid = true) (nonneg : 0 ≤ d.serial) :
    ∃ n : ℕ, d.serial = n ∧ n < 2 ^ 53 := by
  have bound := serial_bound valid
  exact ⟨d.serial.natAbs, by omega, by omega⟩

theorem ofSerial?_eq_some_iff {z : ℤ} :
    Date.ofSerial? z = some d ↔ d.isValid = true ∧ d.serial = z := by
  unfold Date.ofSerial? Date.serial
  rw [Date.ofDayNumber?_eq_some_iff]
  refine and_congr_right fun _ => ?_
  omega

/-- A natural number stands for a date up to the greatest serial. -/
theorem ofNumber?_ofNat (small : n < 2 ^ 53) :
    Date.ofNumber? (Float.ofNat n) = if (n : ℤ) ≤ Date.maxSerial then Date.ofSerial? n
    else none := by
  have finite : (Float.ofNat n).isFinite = true :=
    Binary64.isFinite_ofNat (Binary64.cast_le_greatest (by omega))
  have nonneg : (0.0 : Float) ≤ Float.ofNat n :=
    (Binary64.ofNat_le_ofNat_iff (n := 0) (by omega) small).2 n.zero_le
  have last : Float.ofNat n ≤ Float.ofInt Date.maxSerial ↔ (n : ℤ) ≤ Date.maxSerial :=
    (Binary64.ofNat_le_ofNat_iff (k := 2958465) small (by omega)).trans Nat.cast_le.symm
  unfold Date.ofNumber?
  simp only [finite, nonneg, last, Bool.true_and, decide_true, decide_eq_true_eq,
    Binary64.floor_ofNat small, Binary64.toInt64_ofNat small]

theorem dateOf_number (x : Float) : dateOf (.number x) = match Date.ofNumber? x with
    | some d => .ok d
    | none => .error .typeMismatch := rfl

/-- A number stands for the date whose serial it is. -/
theorem dateOf_serial (valid : d.isValid = true) (small : n < 2 ^ 53) (serial : d.serial = n)
    (last : (n : ℤ) ≤ Date.maxSerial) :
    dateOf (.number (Float.ofNat n)) = .ok d := by
  have found : Date.ofNumber? (Float.ofNat n) = some d := by
    rw [ofNumber?_ofNat small, if_pos last, ofSerial?_eq_some_iff]
    exact ⟨valid, serial⟩
  rw [dateOf_number, found]

/-- Beyond the greatest serial no number stands for a date. -/
theorem dateOf_late (small : n < 2 ^ 53) (late : Date.maxSerial < n) :
    dateOf (.number (Float.ofNat n)) = .error .typeMismatch := by
  rw [dateOf_number, ofNumber?_ofNat small, if_neg (not_le.2 late)]

/-! ## Dates from parts -/

/-- What is made from parts is the serial of a date from day zero on. -/
theorem exists_date_of_parts (h : date args = .ok s) :
    ∃ d : Date, d.isValid = true ∧ 0 ≤ d.serial ∧ s = Float.ofInt d.serial := by
  unfold date at h
  split at h
  next year month day =>
    obtain ⟨x, -, h⟩ := exists_of_bind_eq_ok h
    obtain ⟨m, -, h⟩ := exists_of_bind_eq_ok h
    obtain ⟨k, -, h⟩ := exists_of_bind_eq_ok h
    dsimp only at h
    -- Which year is meant does not matter here, as long as the date is one that there is.
    generalize (if 0 ≤ Decimal.toInt64 (Decimal.truncate x) ∧
      Decimal.toInt64 (Decimal.truncate x) < 1900 then _ else _) = y at h
    split at h
    · cases h
    split at h
    next d rolled =>
      split at h
      · cases h
      next late =>
        obtain ⟨first, -, found⟩ := Option.bind_eq_some_iff.1 rolled
        cases h
        exact ⟨d, (Date.ofDayNumber?_eq_some_iff.1 found).1, not_lt.1 late, rfl⟩
    next => cases h
  next => cases h

/-- A month or day that is a natural number is taken as given, up to ten million. -/
theorem part_ofNat (few : n ≤ 10000000) : part (.number (Float.ofNat n)) = .ok (n : ℤ) := by
  have most : maxPart = Float.ofNat 10000000 := by decide +kernel
  have small : n < 2 ^ 53 := by omega
  have within : ¬ maxPart < (Float.ofNat n).abs := by
    rw [most, Binary64.abs_ofNat, Binary64.ofNat_lt_ofNat_iff (by omega) small]
    omega
  show (if maxPart < (Decimal.truncate (Float.ofNat n)).abs then _ else Except.ok
    (Decimal.toInt64 (Decimal.truncate _))) = _
  rw [Binary64.truncate_ofNat small, if_neg within, Binary64.toInt64_ofNat small]

/-- The parts of a date are rolled over into that date. -/
theorem rolled?_parts (valid : d.isValid = true) : rolled? d.year d.month d.day = some d := by
  obtain ⟨years, ⟨pos, december⟩, first, last⟩ := Date.isValid_iff.1 valid
  have year : (d.year * 12 + (d.month - 1 : ℤ)) / 12 = d.year := by omega
  have month : ((d.year * 12 + (d.month - 1 : ℤ)) % 12).toNat + 1 = d.month := by omega
  have begins : Date.ofParts? d.year d.month 1 = some ⟨d.year, d.month, 1⟩ :=
    Date.ofParts?_eq_some_iff.2
      ⟨Date.isValid_iff.2 ⟨years, ⟨pos, december⟩, le_rfl, first.trans last⟩, rfl⟩
  unfold rolled?
  dsimp only
  rw [year, month, begins, Option.bind_some, Date.ofDayNumber?_eq_some_iff]
  refine ⟨valid, ?_⟩
  unfold Date.dayNumber
  dsimp only
  omega

/-- A date from 1900 on that a number stands for is made again from its parts. -/
theorem date_parts (valid : d.isValid = true) (first : 1900 ≤ d.year) (nonneg : 0 ≤ d.serial)
    (last : d.year ≤ 9999) :
    date [.number (Float.ofInt d.year), .number (Float.ofInt d.month),
        .number (Float.ofInt d.day)] =
      .ok (Float.ofInt d.serial) := by
  obtain ⟨y, hy⟩ := Int.eq_ofNat_of_zero_le (show 0 ≤ d.year by omega)
  obtain ⟨-, ⟨-, december⟩, -, month⟩ := Date.isValid_iff.1 valid
  have days := daysInMonth_le d.year d.month
  have year : Decimal.toInt64 (Decimal.truncate (Float.ofInt y)) = d.year := by
    show Decimal.toInt64 (Decimal.truncate (Float.ofNat y)) = d.year
    rw [Binary64.truncate_ofNat (by omega), Binary64.toInt64_ofNat (by omega), hy]
  -- From 1900 on a year is meant as it is given.
  have given : (if 0 ≤ d.year ∧ d.year < 1900 then d.year + 1900 else d.year) = d.year :=
    if_neg (by omega)
  have within : ¬ (d.year < 1900 ∨ 9999 < d.year) := by omega
  rw [hy]
  show ((part (.number (Float.ofNat d.month))).bind fun m =>
    (part (.number (Float.ofNat d.day))).bind fun k => _) = _
  rw [part_ofNat (by omega), part_ofNat (by omega)]
  dsimp only [Except.bind]
  rw [year, given, if_neg within, rolled?_parts valid]
  exact if_neg (not_lt.2 nonneg)

/-- The last date that a number stands for is the last of the year 9999. -/
theorem year_le_of_serial_le (valid : d.isValid = true) (last : d.serial ≤ Date.maxSerial) :
    d.year ≤ 9999 := by
  have epoch : Date.epoch.dayNumber = 693593 := by decide
  have begins : Calendar.daysBeforeYear 10000 = 3652059 := by decide
  have max : Date.maxSerial = 2958465 := rfl
  have low := (Date.dayNumber_bounds valid).1
  unfold Date.serial at last
  have before : d.year < 10000 := Calendar.daysBeforeYear_mono.reflect_lt (by omega)
  omega

/-! ## Answers -/

theorem library_date :
    (Registry.library engine).find? "DATE" =
    some (.ofArguments "DATE" (.exactly 3) .scalar (numberResult ∘ date)) :=
  find?_library (by simp [Function.library, functions]) rfl

/-- `DATE` answers to numbers with the number that it makes of them. -/
theorem answers_date {year month day : Float}
    (made : date [.number year, .number month, .number day] = .ok s) (finite : s.isFinite = true) :
    Answers engine "DATE" [.number year, .number month, .number day] (.number s) := by
  have answer : Answers engine "DATE" [.number year, .number month, .number day] _ :=
    Lookup.answers_scalars library_date [.number year, .number month, .number day] rfl
  rw [List.map_cons, List.map_cons, List.map_cons, List.map_nil, Function.comp_apply,
    made] at answer
  rwa [numberResult, Value.ofFloat_of_isFinite finite] at answer

/-- What `DATE` answers with is the serial of a date. -/
theorem exists_of_answers_date (h : Answers engine "DATE" args (.number s)) :
    ∃ (d : Date) (n : ℕ), d.isValid = true ∧ d.serial = n ∧ n < 2 ^ 53 ∧ s = Float.ofNat n := by
  obtain ⟨args', answer⟩ := Lookup.exists_of_answers library_date h rfl
  rw [Function.comp_apply] at answer
  cases made : date args' with
  | error e =>
    rw [made] at answer
    cases answer
  | ok x =>
    obtain ⟨d, valid, nonneg, rfl⟩ := exists_date_of_parts made
    obtain ⟨n, serial, small⟩ := exists_serial valid nonneg
    rw [made, serial] at answer
    exact ⟨d, n, valid, serial, small, (Value.eq_of_ofFloat_eq answer).symm⟩

/-- Whole numbers of 53 bits are finite, and so they are results. -/
theorem numberResult_ofInt {z : ℤ} (small : z.natAbs < 2 ^ 53) :
    numberResult (.ok (Float.ofInt z)) = .number (Float.ofInt z) :=
  Value.ofFloat_of_isFinite
    (Binary64.within_ofInt z (Binary64.cast_le_greatest (by omega))).isFinite

/-- A function that takes a part of a date takes it of the date that a number stands for. -/
theorem answers_taking {name : String} (part : Date → ℤ)
    (library : (Registry.library engine).find? name = some
      (.ofArguments name (.exactly 1) .scalar (numberResult ∘ taking part)))
    (x : Float) : Answers engine name [.number x]
    (numberResult ((dateOf (.number x)).map fun d => Float.ofInt (part d))) := by
  have answer : Answers engine name [.number x] (numberResult (taking part [.number x])) :=
    Lookup.answers_scalars library [.number x] rfl
  have taken : taking part [.number x] = (dateOf (.number x)).map fun d =>
    Float.ofInt (part d) := by
    show (dateOf (.number x)).bind _ = _
    cases dateOf (.number x) <;> rfl
  rwa [taken] at answer

/-- Year, month and day are taken of the same date. -/
theorem answers_parts (engine : Regex.Engine) (x : Float) :
    Answers engine "YEAR" [.number x]
      (numberResult ((dateOf (.number x)).map fun d => Float.ofInt d.year)) ∧
    Answers engine "MONTH" [.number x]
      (numberResult ((dateOf (.number x)).map fun d => Float.ofInt d.month)) ∧
    Answers engine "DAY" [.number x]
      (numberResult ((dateOf (.number x)).map fun d => Float.ofInt d.day)) :=
  ⟨answers_taking Date.year (find?_library (by simp [Function.library, functions]) rfl) x,
    answers_taking (fun d => d.month) (find?_library (by simp [Function.library, functions]) rfl) x,
    answers_taking (fun d => d.day) (find?_library (by simp [Function.library, functions]) rfl) x⟩

/-- What stands for no date has no parts. -/
theorem answers_unreadable {e : ErrorCode} (unreadable : dateOf (.number x) = .error e) :
    ∀ name ∈ ["YEAR", "MONTH", "DAY"], Answers engine name [.number x] (.error e) := by
  obtain ⟨years, months, days⟩ := answers_parts engine x
  rw [unreadable] at years months days
  simp only [List.forall_mem_cons]
  exact ⟨years, months, days, List.forall_mem_nil _⟩

/-- **Dates are read back.** If `DATE` answers with a number, then this is the serial of a date.
Up to the greatest serial that numbers stand for dates at, `YEAR`, `MONTH` and `DAY` answer with
the parts of that date, and from 1900 on `DATE` answers with the same number again when it is
given these parts. Beyond it the three answer with an error. -/
theorem dates_read_back {year month day : Value}
    (h : Answers engine "DATE" [year, month, day] (.number s)) :
    ∃ (d : Date) (n : ℕ), d.isValid = true ∧ d.serial = n ∧ s = Float.ofNat n ∧
      (n ≤ Date.maxSerial →
        Answers engine "YEAR" [.number s] (.number (Float.ofInt d.year)) ∧
        Answers engine "MONTH" [.number s] (.number (Float.ofInt d.month)) ∧
        Answers engine "DAY" [.number s] (.number (Float.ofInt d.day)) ∧
        (1900 ≤ d.year →
          Answers engine "DATE"
          [.number (Float.ofInt d.year), .number (Float.ofInt d.month), .number (Float.ofInt d.day)]
            (.number s))) ∧
      (Date.maxSerial < n → ∀ name ∈ ["YEAR", "MONTH", "DAY"], Answers engine name [.number s]
        (.error .typeMismatch)) := by
  obtain ⟨d, n, valid, serial, small, rfl⟩ := exists_of_answers_date h
  refine ⟨d, n, valid, serial, rfl, fun within => ?_,
    fun late => answers_unreadable (dateOf_late small late)⟩
  obtain ⟨years, months, days⟩ := answers_parts engine (Float.ofNat n)
  obtain ⟨⟨first, last⟩, ⟨-, december⟩, -, fits⟩ := Date.isValid_iff.1 valid
  have longest := daysInMonth_le d.year d.month
  unfold Calendar.firstYear at first
  unfold Calendar.lastYear at last
  rw [dateOf_serial valid small serial within, Except.map,
    numberResult_ofInt (by omega)] at years months days
  refine ⟨years, months, days, fun early => ?_⟩
  -- Its own parts make the date without being rolled over.
  have made := date_parts valid early (by omega) (year_le_of_serial_le valid (serial ▸ within))
  rw [serial] at made
  exact answers_date made (Binary64.isFinite_ofNat (Binary64.cast_le_greatest (by omega)))

/-- The thirtieth of February of a leap year, rolled over into March. -/
theorem dates_read_back_of_leap_year :
    Answers .standard "DATE" [.number 2024.0, .number 2.0, .number 30.0] (.number 45352.0) ∧
    ∃ (d : Date) (n : ℕ), d.isValid = true ∧ d.serial = n ∧ 45352.0 = Float.ofNat n ∧
      (n ≤ Date.maxSerial →
        Answers .standard "YEAR" [.number 45352.0] (.number (Float.ofInt d.year)) ∧
        Answers .standard "MONTH" [.number 45352.0] (.number (Float.ofInt d.month)) ∧
        Answers .standard "DAY" [.number 45352.0] (.number (Float.ofInt d.day)) ∧
        (1900 ≤ d.year →
          Answers .standard "DATE"
          [.number (Float.ofInt d.year), .number (Float.ofInt d.month), .number (Float.ofInt d.day)]
            (.number 45352.0))) ∧
      (Date.maxSerial < n → ∀ name ∈ ["YEAR", "MONTH", "DAY"], Answers .standard name
        [.number 45352.0] (.error .typeMismatch)) := by
  have made : date [.number 2024.0, .number 2.0, .number 30.0] = .ok 45352.0 := by decide +kernel
  have answer : Answers .standard "DATE" [.number 2024.0, .number 2.0, .number 30.0] _ :=
    answers_date made (by decide +kernel)
  exact ⟨answer, dates_read_back answer⟩

/-- The day after the last that a number stands for is made, but not read. -/
theorem rolled_date_is_unreadable :
    Answers .standard "DATE" [.number 9999.0, .number 12.0, .number 32.0] (.number 2958466.0) ∧
    ∀ name ∈ ["YEAR", "MONTH", "DAY"],
    Answers .standard name [.number 2958466.0] (.error .typeMismatch) := by
  have made : date [.number 9999.0, .number 12.0, .number 32.0] = .ok 2958466.0 := by decide +kernel
  have same : (2958466.0 : Float) = Float.ofNat 2958466 := by decide +kernel
  have unreadable : dateOf (.number 2958466.0) = .error .typeMismatch := by
    rw [same]
    exact dateOf_late (by decide) (by decide)
  exact ⟨answers_date made (by decide +kernel), answers_unreadable unreadable⟩

end Spreadsheet.DateFunction
