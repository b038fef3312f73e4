import Mathlib
import Spreadsheet.Calendar

/-!
# `Proofs/Calendar.lean` — days are counted without gaps

The years follow one another without a gap, and so do the months of a year, so that every day lies
in one year and one month of it. From this the way back from day numbers is exact: it finds the
date that a day number belongs to, and no other (`ofDayNumber?_eq_some_iff`). It also means that
dates are in the order of their day numbers, and that this is the order of their months, counted
through, and of the days in them (`dayNumber_le_iff`).

A day number is turned into a year by a guess: four hundred years have the same number of days
wherever they start, and the guess that this gives is off by one year at most
(`yearOfDay_bounds`). Within the year the month is the last one that has begun (`monthOfDay_eq`).
Both are settled by linear arithmetic once the days of a year are known to be 365 or 366.
-/

set_option autoImplicit false

namespace Spreadsheet

namespace Calendar

variable {y z : ℤ} {m k : ℕ}

/-! ## Years -/

/-- A year is as long as its twelve months together. -/
theorem daysBeforeMonth_thirteen (y : ℤ) :
    daysBeforeMonth y 13 = if isLeap y then 366 else 365 := by
  simp only [daysBeforeMonth, daysInMonth]
  split <;> rfl

/-- A year begins where the one before it ends. -/
theorem daysBeforeYear_add_one (y : ℤ) :
    daysBeforeYear (y + 1) = daysBeforeYear y + daysBeforeMonth y 13 := by
  rw [daysBeforeMonth_thirteen]
  unfold daysBeforeYear isLeap
  simp only [Bool.and_eq_true, Bool.or_eq_true, beq_iff_eq, bne_iff_ne, ne_eq]
  split <;> omega

theorem daysBeforeYear_mono : Monotone daysBeforeYear :=
  monotone_int_of_le_succ fun y => by
    rw [daysBeforeYear_add_one]
    omega

/-! ## Months -/

theorem daysBeforeMonth_add_one (y : ℤ) (pos : 0 < m) :
    daysBeforeMonth y (m + 1) = daysBeforeMonth y m + daysInMonth y m := by
  obtain ⟨k, rfl⟩ := Nat.exists_eq_add_one.2 pos
  rfl

theorem daysBeforeMonth_mono (y : ℤ) : Monotone (daysBeforeMonth y) := by
  refine monotone_nat_of_le_succ fun m => ?_
  rcases Nat.eq_zero_or_pos m with rfl | pos
  · exact le_rfl
  · rw [daysBeforeMonth_add_one y pos]
    exact Nat.le_add_right _ _

/-- Every day that lies before the end of a month lies in that month or an earlier one. -/
theorem exists_month {n : ℕ} (h : n < daysBeforeMonth y (k + 1)) :
    ∃ m ≤ k, daysBeforeMonth y m ≤ n ∧ n < daysBeforeMonth y (m + 1) := by
  induction k with
  | zero => exact absurd h (Nat.not_lt_zero n)
  | succ k ih =>
    rcases Nat.lt_or_ge n (daysBeforeMonth y (k + 1)) with before | within
    · obtain ⟨m, last, begun, ends⟩ := ih before
      exact ⟨m, by omega, begun, ends⟩
    · exact ⟨k + 1, le_rfl, within, h⟩

end Calendar

namespace Date

open Calendar

variable {y n : ℤ} {m k : ℕ} {d e : Date}

/-! ## The way back -/

/-- Four hundred years are near enough to guess by: the guess is the year of the day or the one
before or after it. -/
theorem yearOfDay_bounds (n : ℤ) :
    daysBeforeYear (yearOfDay n) ≤ n ∧ n < daysBeforeYear (yearOfDay n + 1) := by
  unfold yearOfDay
  generalize guess : n * 400 / 146097 + 1 = g
  -- The guess rounds by less than a year in either direction.
  have low : daysBeforeYear (g - 1) ≤ n := by
    unfold daysBeforeYear
    dsimp only
    omega
  have high : n < daysBeforeYear (g + 1 + 1) := by
    unfold daysBeforeYear
    dsimp only
    omega
  dsimp only
  split
  next after => exact ⟨after, high⟩
  next before =>
    split
    next here => exact ⟨here, not_le.1 before⟩
    next early => exact ⟨low, by simpa using early⟩

/-- A day belongs to one year only. -/
theorem yearOfDay_eq (low : daysBeforeYear y ≤ n) (high : n < daysBeforeYear (y + 1)) :
    yearOfDay n = y := by
  obtain ⟨low', high'⟩ := yearOfDay_bounds n
  have above : y < yearOfDay n + 1 := daysBeforeYear_mono.reflect_lt (low.trans_lt high')
  have below : yearOfDay n < y + 1 := daysBeforeYear_mono.reflect_lt (low'.trans_lt high)
  omega

/-- A day of a year belongs to the month that it lies in. -/
theorem monthOfDay_eq {n : ℕ} (last : m ≤ 12) (low : daysBeforeMonth y m ≤ n)
    (high : n < daysBeforeMonth y (m + 1)) : monthOfDay y n = m := by
  -- The months that have begun by a day are the ones up to its own, and their number is its
  -- number.
  have begun : ∀ i ∈ List.range 12, decide (daysBeforeMonth y (i + 1) ≤ n) = decide (i < m) := by
    intro i _
    rw [decide_eq_decide]
    constructor
    · intro started
      have := (daysBeforeMonth_mono y).reflect_lt (started.trans_lt high)
      omega
    · intro earlier
      exact (daysBeforeMonth_mono y earlier).trans low
  have months : ∀ m : Fin 13,
    ((List.range 12).filter fun i => decide (i < m.val)).length = m := by decide
  unfold monthOfDay
  rw [List.filter_congr begun]
  exact months ⟨m, by omega⟩

/-- What a date has to be. -/
theorem isValid_iff :
    d.isValid = true ↔ (firstYear ≤ d.year ∧ d.year ≤ lastYear) ∧ (1 ≤ d.month ∧ d.month ≤ 12) ∧
    1 ≤ d.day ∧ d.day ≤ daysInMonth d.year d.month := by
  unfold isValid
  simp only [Bool.and_eq_true, decide_eq_true_eq]
  tauto

theorem ofParts?_eq_some_iff {day : ℕ} :
    ofParts? y m day = some d ↔ d.isValid = true ∧ d = ⟨y, m, day⟩ := by
  unfold ofParts?
  dsimp only
  split
  next valid =>
    rw [Option.some.injEq]
    constructor
    · rintro rfl
      exact ⟨valid, rfl⟩
    · rintro ⟨-, rfl⟩
      rfl
  next invalid =>
    refine iff_of_false nofun ?_
    rintro ⟨valid, rfl⟩
    exact invalid valid

/-- How far into its year a date lies. -/
theorem dayNumber_sub (valid : d.isValid = true) :
    d.dayNumber = daysBeforeYear d.year + (daysBeforeMonth d.year d.month + (d.day - 1) : ℕ) := by
  obtain ⟨-, -, first, -⟩ := isValid_iff.1 valid
  unfold dayNumber
  omega

/-- A date lies in its month. -/
theorem lt_daysBeforeMonth (valid : d.isValid = true) :
    daysBeforeMonth d.year d.month + (d.day - 1) < daysBeforeMonth d.year (d.month + 1) := by
  obtain ⟨-, ⟨pos, -⟩, first, last⟩ := isValid_iff.1 valid
  rw [daysBeforeMonth_add_one _ pos]
  omega

/-- A date lies in its year. -/
theorem dayNumber_bounds (valid : d.isValid = true) :
    daysBeforeYear d.year ≤ d.dayNumber ∧ d.dayNumber < daysBeforeYear (d.year + 1) := by
  obtain ⟨-, ⟨-, december⟩, -⟩ := isValid_iff.1 valid
  have month := lt_daysBeforeMonth valid
  have year : daysBeforeMonth d.year (d.month + 1) ≤ daysBeforeMonth d.year 13 :=
    daysBeforeMonth_mono d.year (by omega)
  rw [dayNumber_sub valid, daysBeforeYear_add_one]
  omega

/-- The way back from a day number finds the date that has it, and only that. -/
theorem ofDayNumber?_eq_some_iff :
    ofDayNumber? n = some d ↔ d.isValid = true ∧ d.dayNumber = n := by
  unfold ofDayNumber?
  dsimp only
  rw [ofParts?_eq_some_iff]
  refine and_congr_right fun valid => ?_
  constructor
  -- The year is the one that the day number lies in, and the month the one that the rest lies in.
  · intro parts
    obtain ⟨low, high⟩ := yearOfDay_bounds n
    rw [daysBeforeYear_add_one] at high
    obtain ⟨day, hday⟩ : ∃ day : ℕ, n - daysBeforeYear (yearOfDay n) = day :=
      ⟨_, (Int.toNat_of_nonneg (by omega)).symm⟩
    rw [hday, Int.toNat_natCast] at parts
    have within : day < daysBeforeMonth (yearOfDay n) 13 := by omega
    obtain ⟨m, last, begun, ends⟩ := exists_month within
    rw [monthOfDay_eq last begun ends] at parts
    rw [dayNumber_sub valid, parts]
    dsimp only
    omega
  · rintro rfl
    obtain ⟨low, high⟩ := dayNumber_bounds valid
    obtain ⟨-, ⟨-, december⟩, first, -⟩ := isValid_iff.1 valid
    have day : (d.dayNumber - daysBeforeYear d.year).toNat = daysBeforeMonth d.year d.month +
      (d.day - 1) := by
      rw [dayNumber_sub valid]
      omega
    rw [yearOfDay_eq low high, day,
      monthOfDay_eq december (Nat.le_add_right _ _) (lt_daysBeforeMonth valid),
      Nat.add_sub_cancel_left, Nat.sub_add_cancel first]

/-! ## The order of dates -/

/-- A date in an earlier month is earlier. -/
theorem dayNumber_lt_of_monthIndex_lt (valid : d.isValid = true) (valid' : e.isValid = true)
    (less : d.monthIndex < e.monthIndex) : d.dayNumber < e.dayNumber := by
  have month := lt_daysBeforeMonth valid
  obtain ⟨-, high⟩ := dayNumber_bounds valid
  obtain ⟨low, -⟩ := dayNumber_bounds valid'
  obtain ⟨-, ⟨pos, december⟩, -⟩ := isValid_iff.1 valid
  obtain ⟨-, ⟨pos', december'⟩, -⟩ := isValid_iff.1 valid'
  unfold monthIndex at less
  -- In one year the later month starts behind the earlier one; in a later year all its days do.
  rcases lt_or_eq_of_le (show d.year ≤ e.year by omega) with earlier | same
  · exact high.trans_le ((daysBeforeYear_mono earlier).trans low)
  · have later : d.month + 1 ≤ e.month := by omega
    have begins := daysBeforeMonth_mono d.year later
    rw [dayNumber_sub valid, dayNumber_sub valid', ← same]
    omega

theorem dayNumber_of_monthIndex_eq (valid : d.isValid = true) (valid' : e.isValid = true)
    (same : d.monthIndex = e.monthIndex) : e.dayNumber - d.dayNumber = e.day - d.day := by
  obtain ⟨-, ⟨pos, december⟩, -⟩ := isValid_iff.1 valid
  obtain ⟨-, ⟨pos', december'⟩, -⟩ := isValid_iff.1 valid'
  unfold monthIndex at same
  have year : d.year = e.year := by omega
  have month : d.month = e.month := by omega
  unfold dayNumber
  rw [year, month]
  omega

/-- Dates are in the order of their months, counted through, and within a month in the order of
their days. -/
theorem dayNumber_le_iff (valid : d.isValid = true) (valid' : e.isValid = true) :
    d.dayNumber ≤ e.dayNumber ↔ toLex (d.monthIndex, d.day) ≤ toLex (e.monthIndex, e.day) := by
  rw [Prod.Lex.toLex_le_toLex]
  dsimp only
  rcases lt_trichotomy d.monthIndex e.monthIndex with less | same | more
  · exact iff_of_true (dayNumber_lt_of_monthIndex_lt valid valid' less).le (.inl less)
  · have days := dayNumber_of_monthIndex_eq valid valid' same
    omega
  · have later := dayNumber_lt_of_monthIndex_lt valid' valid more
    omega

end Date

end Spreadsheet
