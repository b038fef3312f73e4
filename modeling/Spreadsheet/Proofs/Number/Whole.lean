import Mathlib
import Spreadsheet.Proofs.Number.Arithmetic
import Spreadsheet.Proofs.Number.Nearest
import Spreadsheet.Proofs.Number.Unsigned

/-!
# `Proofs/Number/Whole.lean` — natural numbers as numbers

A natural number is turned into the number nearest to it (`ofNat_of_roundsTo`). Up to 53 bits that
is the natural number itself, so that what is counted, turned into a number and read as a position
again is the count it was (`toCount_ofNat`). Up to the greatest number it is at least a finite one
(`isFinite_ofNat`).

The bound for the second result is one bit more than a mantissa stores, and for the third it is
far above every count that the functions can reach. Both are stated for any natural number, and
where they are used the bound is that of the list or text that is counted.
-/

set_option autoImplicit false

namespace Spreadsheet.Binary64

open Float.Model (UnpackedFloat)

variable {n m : ℕ} {q : ℤ}

/-- A natural number is turned into the number in whose interval it lies. -/
theorem ofNat_of_roundsTo (canonical : Canonical m q) (rounds : RoundsTo n m q) :
    Float.ofNat n = .ofModel (.pack (magnitude .positive m q)) := by
  rcases Nat.eq_zero_or_pos n with rfl | pos
  -- Zero is made directly, by the branch for what is too small.
  · have small : ((0 : ℕ) : ℚ) ≤ 10 ^ (-330 : ℤ) := by positivity
    rw [magnitude_of_ge rounds canonical _ small]
    rfl
  · have exact : RoundsTo (n * 10 ^ (0 : ℤ)) m q := by
      rw [zpow_zero, mul_one]
      exact rounds
    exact float_ofScientific pos canonical exact

theorem exists_roundsTo_nat (n : ℕ) : ∃ m q, Canonical m q ∧ RoundsTo n m q :=
  exists_roundsTo (Nat.cast_nonneg n)

theorem unsigned_magnitude (m : ℕ) (q : ℤ) : Unsigned (magnitude .positive m q) := by
  unfold magnitude
  split <;> rfl

theorem unsigned_float_ofNat (n : ℕ) : Unsigned (Float.ofNat n).toModel.unpack := by
  obtain ⟨m, q, canonical, rounds⟩ := exists_roundsTo_nat n
  rw [ofNat_of_roundsTo canonical rounds]
  exact (unsigned_magnitude m q).pack

/-! ## Numbers that fit the exponents -/

/-- The greatest number that there is. -/
def greatest : ℚ := (2 ^ 53 - 1) * 2 ^ (971 : ℤ)

/-- What is not above the greatest number has an exponent that there is. -/
theorem RoundsTo.top_of_le {x : ℚ} (rounds : RoundsTo x m q) (canonical : Canonical m q)
    (bound : x ≤ greatest) :
    q ≤ 971 := by
  by_contra large
  rw [not_le] at large
  have full : 2 ^ 52 ≤ m := canonical.full.resolve_right (by omega)
  -- Of two binades more, the least number reaches down by a quarter only, and the others are far
  -- away.
  have reach : (2 ^ 52 - 1 / 4 : ℚ) ≤ m - below m q := by
    rcases full.eq_or_lt with rfl | more
    · rw [below, if_pos ⟨rfl, by omega⟩]
      norm_num
    · have more : (2 ^ 52 + 1 : ℚ) ≤ m := by exact_mod_cast more
      linarith [below_le m q]
  have step : (2 : ℚ) * 2 ^ (971 : ℤ) ≤ 2 ^ q := by
    rw [← zpow_one_add₀ (by norm_num)]
    exact zpow_le_zpow_right₀ (by norm_num) (by omega)
  have low := rounds.low
  have size := two_zpow_pos 971
  unfold greatest at bound
  generalize (2 : ℚ) ^ (971 : ℤ) = top at bound step size
  have far : (2 ^ 52 - 1 / 4) * (2 * top) ≤ (m - below m q) * 2 ^ q :=
    mul_le_mul reach step (by linarith) (by linarith)
  linarith

/-- Two hundred bits are far below the greatest number. -/
theorem cast_le_greatest (h : n ≤ 2 ^ 200) : (n : ℚ) ≤ greatest := by
  have few : (n : ℚ) ≤ 2 ^ (200 : ℤ) := by exact_mod_cast h
  have step : (2 : ℚ) ^ (200 : ℤ) ≤ 2 ^ (971 : ℤ) := zpow_le_zpow_right₀ (by norm_num) (by norm_num)
  have size := two_zpow_pos 971
  unfold greatest
  generalize (2 : ℚ) ^ (971 : ℤ) = top at step size ⊢
  linarith

theorem magnitude_isFinite (s : UnpackedFloat.Sign) (m : ℕ) (q : ℤ) :
    (magnitude s m q).isFinite = true := by
  unfold magnitude
  split <;> rfl

/-- A number whose exponent there is is finite. -/
theorem isFinite_pack (s : UnpackedFloat.Sign) (canonical : Canonical m q) (top : q ≤ 971) :
    (Float.ofModel (.pack (magnitude s m q))).isFinite = true := by
  show (Float.Model.pack (magnitude s m q)).unpack.isFinite = true
  rw [unpack_pack s canonical top]
  exact magnitude_isFinite s m q

theorem isFinite_ofNat (h : (n : ℚ) ≤ greatest) : (Float.ofNat n).isFinite = true := by
  obtain ⟨m, q, canonical, rounds⟩ := exists_roundsTo_nat n
  rw [ofNat_of_roundsTo canonical rounds]
  exact isFinite_pack _ canonical (rounds.top_of_le canonical h)

/-! ## Numbers of 53 bits -/

theorem exists_canonical (h : n < 2 ^ 53) : ∃ m q, Canonical m q ∧ (n : ℚ) = m * 2 ^ q ∧ q ≤ 0 := by
  rcases Nat.eq_zero_or_pos n with rfl | pos
  · refine ⟨0, -1074, ⟨?_, le_rfl, .inr rfl⟩, ?_, ?_⟩ <;> norm_num
  · obtain ⟨m, q, canonical, -, small, same⟩ := exists_full pos h
    exact ⟨m, q, canonical, same, small⟩

/-- A natural number that is a number is that natural number as an exact fraction. -/
theorem ofFloat?_of_exact (canonical : Canonical m q) (top : q ≤ 971)
    (exact : (n : ℚ) = m * 2 ^ q) :
    ∃ b, Decimal.Binary.ofFloat? (Float.ofNat n) = some b ∧ b.negative = false ∧
    b.ratio.1 = n * b.ratio.2 ∧ 0 < b.ratio.2 := by
  have number := ofNat_of_roundsTo canonical (exact ▸ roundsTo_self m q)
  have finite : (Float.ofNat n).isFinite = true := number ▸ isFinite_pack _ canonical top
  obtain ⟨b, hb⟩ : ∃ b, Decimal.Binary.ofFloat? (Float.ofNat n) = some b := ⟨_, if_pos finite⟩
  obtain ⟨canonical', -, stored⟩ := unpack_of_ofFloat? hb
  rw [number] at stored
  -- What is stored has one canonical mantissa and exponent, and so they are those given.
  obtain ⟨sign, rfl, rfl⟩ :=
    magnitude_inj canonical canonical' ((unpack_pack _ canonical top).symm.trans stored)
  have ratio := ratio_eq b
  rw [← exact] at ratio
  refine ⟨b, hb, ?_, by exact_mod_cast ratio, Nat.pow_pos (by norm_num)⟩
  cases negative : b.negative with
  | false => rfl
  | true =>
    rw [negative] at sign
    cases sign

/-- What such a number is as an exact fraction is the natural number. -/
theorem ofFloat?_ofNat (h : n < 2 ^ 53) :
    ∃ b, Decimal.Binary.ofFloat? (Float.ofNat n) = some b ∧ b.negative = false ∧
    b.ratio.1 = n * b.ratio.2 ∧ 0 < b.ratio.2 := by
  obtain ⟨m, q, canonical, exact, small⟩ := exists_canonical h
  exact ofFloat?_of_exact canonical (by omega) exact

/-- The whole part of a natural number is the natural number. -/
theorem truncate_ofFloat? {b : Decimal.Binary} (positive : b.negative = false)
    (ratio : b.ratio.1 = n * b.ratio.2) (pos : 0 < b.ratio.2) : b.truncate = n := by
  unfold Decimal.Binary.truncate Decimal.Binary.signed
  rw [positive, ratio, Nat.mul_div_cancel _ pos]
  rfl

/-- A whole part of a natural number is the natural number, if it is the whole part of an exact
one. -/
theorem wholePart_ofNat {part : Decimal.Binary → ℤ} (h : n < 2 ^ 53)
    (whole : ∀ b : Decimal.Binary, b.negative = false → b.ratio.1 = n * b.ratio.2 → 0 < b.ratio.2 →
      part b = n) :
    Decimal.wholePart part (Float.ofNat n) = Float.ofNat n := by
  obtain ⟨b, hb, positive, ratio, pos⟩ := ofFloat?_ofNat h
  unfold Decimal.wholePart
  rw [hb]
  dsimp only
  rw [positive, whole b positive ratio pos]
  unfold Decimal.ofWhole
  split
  next zero =>
    obtain rfl : n = 0 := by exact_mod_cast zero
    rfl
  next => rfl

/-- A natural number has no fractional part to lose. -/
theorem truncate_ofNat (h : n < 2 ^ 53) : Decimal.truncate (Float.ofNat n) = Float.ofNat n :=
  wholePart_ofNat h fun _ => truncate_ofFloat?

theorem floor_ofNat (h : n < 2 ^ 53) : Decimal.floor (Float.ofNat n) = Float.ofNat n := by
  refine wholePart_ofNat h fun b positive ratio pos => ?_
  unfold Decimal.Binary.floor Decimal.Binary.signed
  rw [positive, ratio, Nat.cast_mul]
  exact Int.mul_ediv_cancel _ (by exact_mod_cast pos.ne')

/-- A natural number is read as the position that it is. -/
theorem toCount_ofNat (h : n < 2 ^ 53) : Decimal.toCount (Float.ofNat n) = n := by
  obtain ⟨b, hb, positive, ratio, pos⟩ := ofFloat?_ofNat h
  unfold Decimal.toCount Decimal.toIntWithin
  rw [hb]
  dsimp only
  rw [truncate_ofFloat? positive ratio pos]
  omega

theorem toInt64_ofNat (h : n < 2 ^ 53) : Decimal.toInt64 (Float.ofNat n) = n := by
  obtain ⟨b, hb, positive, ratio, pos⟩ := ofFloat?_ofNat h
  unfold Decimal.toInt64 Decimal.toIntWithin
  rw [hb]
  dsimp only
  rw [truncate_ofFloat? positive ratio pos]
  omega

theorem ofNat_not_lt_zero (n : ℕ) : ¬ Float.ofNat n < 0.0 := (unsigned_float_ofNat n).not_lt

/-- Only zero is level with zero. -/
theorem ofNat_beq_zero (h : n < 2 ^ 53) : (Float.ofNat n == 0.0) = decide (n = 0) := by
  rw [Bool.eq_iff_iff, decide_eq_true_iff]
  constructor
  · intro level
    have zero : Float.ofNat n = 0.0 := by
      rcases near_of_beq level with same | ⟨positive | negative, -⟩
      · exact same
      · exact positive
      · exact absurd negative (unsigned_float_ofNat n).ne_negative_zero
    have none : Decimal.toCount 0.0 = 0 := by decide +kernel
    rw [← toCount_ofNat h, zero, none]
  · rintro rfl
    rfl

end Spreadsheet.Binary64
