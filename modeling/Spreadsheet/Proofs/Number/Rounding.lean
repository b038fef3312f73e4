import Mathlib
import Spreadsheet.Decimal.Binary

/-!
# `Proofs/Number/Rounding.lean` — operations come to the nearest number

Products and quotients are first formed exactly, as a mantissa with two bits that say what is left
over, and then brought to 53 bits. Here it is shown that this is rounding to the nearest number,
ties to the even one (`round_of_roundsTo`): every real that lies in the interval around a number
(`RoundsTo`) ends as that number.

The two bits are all that has to be known of what is left over (`Represents`), and shifting keeps
what they say. Where the mantissa carries into a bit too many the interval is the lower half of
the one around a power of two, a quarter wide, because below it numbers stand twice as close.

The two cases of the main result are told apart by where the exact value lies, at or below the
least number of the binade of the result. In the second it has one bit more than expected, and the
exponent that the operation aims at is one less than that of the result.
-/

set_option autoImplicit false

namespace Spreadsheet.Binary64

open Float.Model (UnpackedFloat totalExponent)
open Float.Model.Format (binary64)
open Float.Model.UnpackedFloat

/-! ## The interval around a number -/

/-- The significand and exponent that a number is stored with, as far as the exponents reach
down. -/
structure Canonical (m : ℕ) (q : ℤ) : Prop where
  bits : m < 2 ^ 53
  least : -1074 ≤ q
  full : 2 ^ 52 ≤ m ∨ q = -1074

/-- The number `m · 2^q`, with a sign. -/
def magnitude (s : UnpackedFloat.Sign) (m : ℕ) (q : ℤ) : UnpackedFloat :=
  if pos : 0 < m then .finite s m q pos else .zero s

/-- How far below its significand the interval around a number reaches. -/
def below (m : ℕ) (q : ℤ) : ℚ := if m = Decimal.leastNormal ∧ -1074 < q then 1 / 4 else 1 / 2

/-- Whether a real rounds to the number `m · 2^q`: between the ends of its interval, and at them
only if the significand is even. -/
structure RoundsTo (x : ℚ) (m : ℕ) (q : ℤ) : Prop where
  low : (m - below m q) * 2 ^ q ≤ x
  high : x ≤ (m + 1 / 2) * 2 ^ q
  inside : m % 2 = 1 → (m - below m q) * 2 ^ q < x ∧ x < (m + 1 / 2) * 2 ^ q

variable {m n : ℕ} {e q : ℤ} {x : ℚ}

theorem two_zpow_pos (q : ℤ) : (0 : ℚ) < 2 ^ q := zpow_pos (by norm_num) q

theorem below_pos (m : ℕ) (q : ℤ) : 0 < below m q := by
  unfold below
  split <;> norm_num

theorem below_le (m : ℕ) (q : ℤ) : below m q ≤ 1 / 2 := by
  unfold below
  split <;> norm_num

/-- A number rounds to itself. -/
theorem roundsTo_self (m : ℕ) (q : ℤ) : RoundsTo (m * 2 ^ q) m q := by
  have size := two_zpow_pos q
  have reach := below_pos m q
  refine ⟨?_, ?_, fun _ => ⟨?_, ?_⟩⟩ <;> nlinarith

/-- Every real has a last place, 53 bits down from its first or the least that there is. -/
theorem exists_place (nonneg : 0 ≤ x) :
    ∃ q : ℤ, -1074 ≤ q ∧ (2 ^ 52 * 2 ^ q ≤ x ∨ q = -1074) ∧ x < 2 ^ 53 * 2 ^ q := by
  have nonzero : (2 : ℚ) ≠ 0 := by norm_num
  have upper : x < 2 ^ (Int.log 2 x + 1) := Int.lt_zpow_succ_log_self (by norm_num) x
  have place : ∀ (k : ℕ) (q : ℤ), (2 : ℚ) ^ k * 2 ^ q = 2 ^ (k + q) := fun k q => by
    rw [zpow_add₀ nonzero, zpow_natCast]
  rcases nonneg.eq_or_lt with rfl | pos
  · exact ⟨-1074, le_rfl, .inr rfl, by positivity⟩
  have lower : 2 ^ Int.log 2 x ≤ x := Int.zpow_log_le_self (by norm_num) pos
  -- Below the exponents that are stored the least one is taken, and the mantissa is short.
  rcases le_total (-1074) (Int.log 2 x - 52) with normal | subnormal
  · refine ⟨_, normal, .inl ?_, ?_⟩
    · rwa [place, show ((52 : ℕ) + (Int.log 2 x - 52) : ℤ) = Int.log 2 x by push_cast; ring]
    · rwa [place, show ((53 : ℕ) + (Int.log 2 x - 52) : ℤ) = Int.log 2 x + 1 by push_cast; ring]
  · refine ⟨-1074, le_rfl, .inr rfl, upper.trans_le ?_⟩
    rw [place]
    exact zpow_le_zpow_right₀ (by norm_num) (by push_cast; omega)

/-- Every real has a nearest natural number, the even one if there are two. -/
theorem exists_nearest (nonneg : 0 ≤ x) : ∃ n : ℕ, (n : ℚ) - 1 / 2 ≤ x ∧ x ≤ n + 1 / 2 ∧
    (n % 2 = 1 → (n : ℚ) - 1 / 2 < x ∧ x < n + 1 / 2) := by
  have floor := Nat.floor_le nonneg
  have ceiling := Nat.lt_floor_add_one x
  generalize ⌊x⌋₊ = k at *
  rcases lt_trichotomy x (k + 1 / 2) with less | half | more
  · exact ⟨k, by linarith, less.le, fun _ => ⟨by linarith, less⟩⟩
  · rcases Nat.mod_two_eq_zero_or_one k with even | odd
    · exact ⟨k, by linarith, half.le, fun odd => by omega⟩
    · exact ⟨k + 1, by push_cast; linarith, by push_cast; linarith, fun odd => by omega⟩
  · exact ⟨k + 1, by push_cast; linarith, by push_cast; linarith,
      fun _ => ⟨by push_cast; linarith, by push_cast; linarith⟩⟩

/-- Every real rounds to a number, where exponents have no bound above. -/
theorem exists_roundsTo (nonneg : 0 ≤ x) : ∃ m q, Canonical m q ∧ RoundsTo x m q := by
  obtain ⟨q, least, full, bits⟩ := exists_place nonneg
  have size := two_zpow_pos q
  obtain ⟨n, low, high, inside⟩ := exists_nearest (div_nonneg nonneg size.le)
  rw [le_div_iff₀ size] at low
  rw [div_le_iff₀ size] at high
  rw [lt_div_iff₀ size, div_lt_iff₀ size] at inside
  -- The nearest multiple of the last place has 53 bits, or it is the first number that has more.
  have bound : n ≤ 2 ^ 53 := by
    have : (n : ℚ) < (2 ^ 53 + 1 : ℕ) := by push_cast; nlinarith
    rw [Nat.cast_lt] at this
    omega
  have enough : 2 ^ 52 ≤ n ∨ q = -1074 := full.imp_left fun full => by
    have : ((2 ^ 52 : ℕ) : ℚ) < (n + 1 : ℕ) := by push_cast; nlinarith
    rw [Nat.cast_lt] at this
    omega
  rcases bound.lt_or_eq with bound | rfl
  · have reach : (n - below n q) * 2 ^ q ≤ x ∧ (n % 2 = 1 → (n - below n q) * 2 ^ q < x) := by
      unfold below
      split
      next least =>
        obtain ⟨rfl, above⟩ := least
        have full := full.resolve_right above.ne'
        refine ⟨le_trans ?_ full, fun odd => absurd odd (by decide)⟩
        exact mul_le_mul_of_nonneg_right (by norm_num [Decimal.leastNormal]) size.le
      next => exact ⟨low, fun odd => (inside odd).1⟩
    exact ⟨n, q, ⟨bound, least, enough⟩, reach.1, high, fun odd => ⟨reach.2 odd, (inside odd).2⟩⟩
  · -- Rounding carried into the next binade, and its least number reaches down by as much as has
    -- been rounded.
    have twice : (2 : ℚ) ^ (q + 1) = 2 * 2 ^ q := by rw [zpow_add_one₀ (by norm_num), mul_comm]
    have quarter : below (2 ^ 52) (q + 1) = 1 / 4 := if_pos ⟨rfl, by omega⟩
    refine ⟨2 ^ 52, q + 1, ⟨by norm_num, by omega, .inl le_rfl⟩, ?_, ?_, by norm_num⟩
    · rw [quarter, twice]
      push_cast at low ⊢
      linarith
    · rw [twice]
      push_cast
      linarith

/-! ## What the bits behind a mantissa say -/

/-- What an extended mantissa says about the real that it stands for: its whole part, whether it
is at least half way to the next, and whether it is anything but these two. -/
structure Represents (em : ExtendedMantissa) (x : ℚ) : Prop where
  floor : em.mantissa ≤ x
  ceiling : x < em.mantissa + 1
  round : em.roundBit = true ↔ em.mantissa + 1 / 2 ≤ x
  sticky : em.stickyBit = true ↔ x ≠ em.mantissa ∧ x ≠ em.mantissa + 1 / 2

variable {em : ExtendedMantissa}

/-- Both bits are off only of what is exact. -/
theorem Represents.exact_iff (h : Represents em x) :
    (em.roundBit || em.stickyBit) = true ↔ x ≠ em.mantissa := by
  rw [Bool.or_eq_true, h.round, h.sticky]
  constructor
  · rintro (half | ⟨exact, -⟩)
    · linarith
    · exact exact
  · intro exact
    by_cases half : x = em.mantissa + 1 / 2
    · exact .inl half.ge
    · exact .inr ⟨exact, half⟩

/-- A bit that is shifted out becomes the first behind the mantissa, and the others are kept as
one. -/
theorem Represents.shiftRightOne (h : Represents em x) : Represents em.shiftRightOne (x / 2) := by
  have floor := h.floor
  have ceiling := h.ceiling
  have exact := h.exact_iff
  have cut : (em.mantissa : ℚ) = 2 * (em.mantissa / 2 : ℕ) + (em.mantissa % 2 : ℕ) := by
    exact_mod_cast (Nat.div_add_mod em.mantissa 2).symm
  unfold ExtendedMantissa.shiftRightOne
  -- The bit that is shifted out says on which side of the middle the value is.
  rcases Nat.mod_two_eq_zero_or_one em.mantissa with even | odd
  · rw [even, Nat.cast_zero, add_zero] at cut
    refine ⟨by linarith, by linarith, ?_, ?_⟩
    · simp only [even, bne_self_eq_false, Bool.false_eq_true, false_iff, not_le]
      linarith
    · rw [exact]
      constructor
      · exact fun more => ⟨fun eq => more (by linarith), by linarith⟩
      · exact fun more eq => more.1 (by linarith)
  · rw [odd, Nat.cast_one] at cut
    refine ⟨by linarith, by linarith, ?_, ?_⟩
    · simp only [odd, Nat.one_ne_zero, bne_iff_ne, ne_eq, not_false_eq_true, true_iff]
      linarith
    · rw [exact]
      constructor
      · exact fun more => ⟨by linarith, fun eq => more (by linarith)⟩
      · exact fun more eq => more.2 (by linarith)

theorem Represents.shiftRight (h : Represents em x) (k : ℕ) :
    Represents (em >>> k) (x / 2 ^ k) := by
  show Represents (k.repeat ExtendedMantissa.shiftRightOne em) _
  induction k with
  | zero => simpa [Nat.repeat] using h
  | succ k ih =>
    rw [pow_succ, ← div_div]
    exact ih.shiftRightOne

/-- Rounding a mantissa takes it to the nearest natural number, in the middle to the even one. -/
theorem Represents.roundedMantissa (h : Represents em x) (low : (n : ℚ) - 1 / 2 ≤ x)
    (high : x ≤ n + 1 / 2) (inside : n % 2 = 1 → (n : ℚ) - 1 / 2 < x ∧ x < n + 1 / 2) :
    em.roundedMantissa = n := by
  obtain ⟨m, round, sticky⟩ := em
  obtain ⟨floor, ceiling, round_iff, sticky_iff⟩ := h
  simp only at floor ceiling round_iff sticky_iff
  have near : n = m ∨ n = m + 1 := by
    have up : (n : ℚ) < (m + 2 : ℕ) := by push_cast; linarith
    have down : (m : ℚ) < (n + 1 : ℕ) := by push_cast; linarith
    rw [Nat.cast_lt] at up down
    omega
  -- Rounding goes down or up. Going down past the middle, or up before it, contradicts that the
  -- number is nearest.
  rcases near with rfl | rfl
  · cases round with
    | false => cases sticky <;> rfl
    | true =>
      -- In the middle the two neighbours are equally near, and the even one was asked for.
      have half : x = n + 1 / 2 := le_antisymm high (round_iff.1 rfl)
      have even : n % 2 = 0 := by
        by_contra odd
        exact absurd half (inside (by omega)).2.ne
      cases sticky with
      | false =>
        simp [ExtendedMantissa.roundedMantissa, ExtendedMantissa.accuracy,
          Accuracy.roundToNearestEven, even]
      | true => exact absurd half (sticky_iff.1 rfl).2
  · push_cast at low inside
    obtain rfl := round_iff.2 (by linarith)
    cases sticky with
    | true => rfl
    | false =>
      have half : x = m + 1 / 2 := by
        by_contra more
        exact absurd (sticky_iff.2 ⟨by linarith, more⟩) (by simp)
      have odd : m % 2 = 1 := by
        by_contra even
        have := (inside (by omega)).1
        linarith
      simp [ExtendedMantissa.roundedMantissa, ExtendedMantissa.accuracy,
        Accuracy.roundToNearestEven, odd]

theorem represents_exact (m : ℕ) : Represents (.ofMantissaAndAccuracy m .exact) m := by
  constructor <;> norm_num [ExtendedMantissa.ofMantissaAndAccuracy]

/-- What is left over is compared to a half. -/
theorem represents_inexact (m : ℕ) {f : ℚ} (pos : 0 < f) (less : f < 1) :
    Represents (.ofMantissaAndAccuracy m (.inexact (compare f (1 / 2)))) (m + f) := by
  rcases lt_trichotomy f (1 / 2) with half | half | half
  · rw [compare_lt_iff_lt.2 half]
    constructor <;>
      simp [ExtendedMantissa.ofMantissaAndAccuracy, pos.le, pos.ne', less] <;> linarith
  · rw [compare_eq_iff_eq.2 half]
    constructor <;> norm_num [ExtendedMantissa.ofMantissaAndAccuracy, half]
  · rw [compare_gt_iff_gt.2 half]
    constructor <;>
      simp [ExtendedMantissa.ofMantissaAndAccuracy, pos.le, pos.ne', less] <;> linarith

/-! ## Shifting to 53 bits -/

variable {a : Accuracy}

theorem mantissa_ofMantissaAndAccuracy (m : ℕ) (a : Accuracy) :
    (ExtendedMantissa.ofMantissaAndAccuracy m a).mantissa = m := by
  unfold ExtendedMantissa.ofMantissaAndAccuracy
  split <;> rfl

theorem targetExponent_binary64 (total : ℤ) :
    binary64.targetExponent total = max (total - 53) (-1074) := rfl

theorem targetExponent_totalExponent (m : ℕ) (e : ℤ) :
    binary64.targetExponent (totalExponent m e) = max (Nat.log2 m + e - 52) (-1074) := by
  rw [targetExponent_binary64, totalExponent]
  omega

/-- The exponent that a mantissa is shifted to is that of the 53 bits of the real it stands for,
or the least that there is. -/
theorem targetExponent_eq (h : Represents (.ofMantissaAndAccuracy m a) (x / 2 ^ e))
    (fine : e ≤ binary64.targetExponent (totalExponent m e)) (least : -1074 ≤ q)
    (full : 2 ^ 52 * 2 ^ q ≤ x ∨ q = -1074) (bits : x < 2 ^ 53 * 2 ^ q) :
    binary64.targetExponent (totalExponent m e) = q := by
  have floor := h.floor
  have ceiling := h.ceiling
  rw [mantissa_ofMantissaAndAccuracy] at floor ceiling
  rw [le_div_iff₀ (two_zpow_pos e)] at floor
  rw [div_lt_iff₀ (two_zpow_pos e)] at ceiling
  rw [targetExponent_totalExponent] at fine ⊢
  have two : (1 : ℚ) < 2 := by norm_num
  have nonzero : (2 : ℚ) ≠ 0 := by norm_num
  have up : (m : ℚ) + 1 ≤ 2 ^ ((Nat.log2 m : ℤ) + 1) := by exact_mod_cast Nat.lt_log2_self (n := m)
  -- The last place is not above what the bits of the mantissa say, and below it is not further
  -- away than 53 bits.
  have upper : q = -1074 ∨ q < Nat.log2 m + e - 51 := by
    refine full.symm.imp_right fun full => ?_
    have : (2 : ℚ) ^ (52 + q) < 2 ^ (Nat.log2 m + 1 + e) := by
      calc (2 : ℚ) ^ (52 + q) = 2 ^ 52 * 2 ^ q := by rw [zpow_add₀ nonzero]; norm_num
        _ ≤ x := full
        _ < (m + 1) * 2 ^ e := ceiling
        _ ≤ 2 ^ ((Nat.log2 m : ℤ) + 1) * 2 ^ e := mul_le_mul_of_nonneg_right up (two_zpow_pos e).le
        _ = 2 ^ (Nat.log2 m + 1 + e) := by rw [← zpow_add₀ nonzero]
    have := (zpow_lt_zpow_iff_right₀ two).1 this
    omega
  have lower : m = 0 ∨ Nat.log2 m + e - 53 < q := by
    rcases Nat.eq_zero_or_pos m with zero | pos
    · exact .inl zero
    have down : (2 : ℚ) ^ (Nat.log2 m : ℤ) ≤ m := by exact_mod_cast Nat.log2_self_le pos.ne'
    have : (2 : ℚ) ^ (Nat.log2 m + e) < 2 ^ (53 + q) := by
      calc (2 : ℚ) ^ (Nat.log2 m + e) = 2 ^ (Nat.log2 m : ℤ) * 2 ^ e := zpow_add₀ nonzero _ _
        _ ≤ m * 2 ^ e := mul_le_mul_of_nonneg_right down (two_zpow_pos e).le
        _ ≤ x := floor
        _ < 2 ^ 53 * 2 ^ q := bits
        _ = 2 ^ (53 + q) := by rw [zpow_add₀ nonzero]; norm_num
    have := (zpow_lt_zpow_iff_right₀ two).1 this
    exact .inr (by omega)
  rcases lower with rfl | lower
  · simp only [Nat.log2_zero] at *
    omega
  · omega

/-- A mantissa of 53 bits or more does not have to be widened. -/
theorem le_targetExponent (full : 2 ^ 52 ≤ m ∨ e ≤ -1074) :
    e ≤ binary64.targetExponent (totalExponent m e) := by
  rw [targetExponent_totalExponent]
  rcases full with full | small
  · have := (Nat.le_log2 (by omega)).2 full
    omega
  · omega

/-- Shifting keeps what the mantissa says. -/
theorem shiftToTargetExponent_eq (h : Represents (.ofMantissaAndAccuracy m a) (x / 2 ^ e))
    (fine : e ≤ binary64.targetExponent (totalExponent m e)) (least : -1074 ≤ q)
    (full : 2 ^ 52 * 2 ^ q ≤ x ∨ q = -1074) (bits : x < 2 ^ 53 * 2 ^ q) :
    ∃ em, shiftToTargetExponent binary64 m e a = (em, q) ∧ Represents em (x / 2 ^ q) := by
  have target := targetExponent_eq h fine least full bits
  rw [target] at fine
  obtain ⟨k, rfl⟩ := Int.le.dest fine
  refine ⟨ExtendedMantissa.ofMantissaAndAccuracy m a >>> k, ?_, ?_⟩
  · unfold shiftToTargetExponent shiftToExponent
    dsimp only
    rw [target, add_sub_cancel_left, Int.toNat_natCast]
  · have shifted := h.shiftRight k
    rwa [div_div, ← zpow_natCast, ← zpow_add₀ (by norm_num)] at shifted

theorem Represents.mantissa_eq (h : Represents em n) : em.mantissa = n := by
  have floor : em.mantissa ≤ n := by exact_mod_cast h.floor
  have ceiling : n < em.mantissa + 1 := by exact_mod_cast h.ceiling
  omega

/-- Where nothing has to be rounded off, the number stays what it is. -/
theorem shift_exact {q' : ℤ} (canonical : Canonical n q') (full : 2 ^ 52 ≤ m ∨ q ≤ -1074)
    (same : (m * 2 ^ q : ℚ) = n * 2 ^ q') :
    ∃ em, shiftToTargetExponent binary64 m q .exact = (em, q') ∧ em.mantissa = n := by
  have size := two_zpow_pos q'
  have stands : Represents (.ofMantissaAndAccuracy m .exact) (n * 2 ^ q' / 2 ^ q) := by
    rw [← same, mul_div_cancel_right₀ _ (two_zpow_pos q).ne']
    exact represents_exact m
  have wide : (2 : ℚ) ^ 52 * 2 ^ q' ≤ n * 2 ^ q' ∨ q' = -1074 :=
    canonical.full.imp_left fun full => mul_le_mul_of_nonneg_right (by exact_mod_cast full) size.le
  have bits : (n * 2 ^ q' : ℚ) < 2 ^ 53 * 2 ^ q' :=
    mul_lt_mul_of_pos_right (by exact_mod_cast canonical.bits) size
  obtain ⟨em, shift, value⟩ :=
    shiftToTargetExponent_eq stands (le_targetExponent full) canonical.least wide bits
  rw [mul_div_cancel_right₀ _ size.ne'] at value
  exact ⟨em, shift, value.mantissa_eq⟩

/-! ## Rounding -/

theorem roundWithAccuracy_eq {em : ExtendedMantissa} (s : UnpackedFloat.Sign)
    (first : shiftToTargetExponent binary64 m e a = (em, q)) {q' : ℤ} (canonical : Canonical n q')
    (full : 2 ^ 52 ≤ em.roundedMantissa ∨ q ≤ -1074)
    (same : (em.roundedMantissa * 2 ^ q : ℚ) = n * 2 ^ q') :
    roundWithAccuracy binary64 s m e a = magnitude s n q' := by
  obtain ⟨em', second, rfl⟩ := shift_exact canonical full same
  unfold roundWithAccuracy magnitude
  rw [first]
  dsimp only
  rw [second]
  split
  next zero => rw [dif_neg zero.not_gt]
  next some => rw [dif_pos (Nat.pos_of_ne_zero some)]

/-- A real below the least number of a binade is rounded up to it: the mantissa carries. -/
theorem round_of_roundsTo_below (s : UnpackedFloat.Sign) (canonical : Canonical (2 ^ 52) q)
    (above : -1074 < q) (rounds : RoundsTo x (2 ^ 52 : ℕ) q) (under : x < 2 ^ 52 * 2 ^ q)
    (h : Represents (.ofMantissaAndAccuracy m a) (x / 2 ^ e))
    (fine : e ≤ binary64.targetExponent (totalExponent m e)) :
    roundWithAccuracy binary64 s m e a = magnitude s (2 ^ 52) q := by
  have half := two_zpow_pos (q - 1)
  have twice : (2 : ℚ) ^ q = 2 * 2 ^ (q - 1) := by rw [zpow_sub_one₀ (by norm_num)]; ring
  have quarter : below (2 ^ 52) q = 1 / 4 := if_pos ⟨rfl, above⟩
  have low := rounds.low
  rw [quarter, twice] at low
  rw [twice] at under
  push_cast at low
  obtain ⟨em, first, value⟩ :=
    shiftToTargetExponent_eq (q := q - 1) h fine (by omega) (.inl (by nlinarith)) (by linarith)
  -- With the finer last place of the binade below, the mantissa is the first natural number of 54
  -- bits.
  have rounded : em.roundedMantissa = 2 ^ 53 := by
    refine value.roundedMantissa ?_ ?_ (by norm_num)
    · rw [le_div_iff₀ half]
      push_cast
      linarith
    · rw [div_le_iff₀ half]
      push_cast
      nlinarith
  refine roundWithAccuracy_eq s first canonical (.inl (by rw [rounded]; norm_num)) ?_
  rw [rounded, twice]
  push_cast
  ring

/-- A real that lies in the interval of a number is rounded to it. -/
theorem round_of_roundsTo (s : UnpackedFloat.Sign) (canonical : Canonical n q)
    (rounds : RoundsTo x n q) (h : Represents (.ofMantissaAndAccuracy m a) (x / 2 ^ e))
    (fine : e ≤ binary64.targetExponent (totalExponent m e)) :
    roundWithAccuracy binary64 s m e a = magnitude s n q := by
  have size := two_zpow_pos q
  have least := canonical.least
  have low := rounds.low
  have high := rounds.high
  have reach := below_le n q
  have bits : (n : ℚ) + 1 ≤ 2 ^ 53 := by exact_mod_cast canonical.bits
  by_cases under : x < 2 ^ 52 * 2 ^ q ∧ q ≠ -1074
  · obtain ⟨under, above⟩ := under
    obtain rfl : n = 2 ^ 52 := by
      -- Only the interval of the least number of a binade reaches below the binade.
      have few : (n : ℚ) < (2 ^ 52 + 1 : ℕ) := by push_cast; nlinarith
      have full := canonical.full.resolve_right above
      rw [Nat.cast_lt] at few
      omega
    exact round_of_roundsTo_below s canonical (by omega) rounds under h fine
  · have full : 2 ^ 52 * 2 ^ q ≤ x ∨ q = -1074 := by
      by_contra neither
      rw [not_or, not_le] at neither
      exact under neither
    obtain ⟨em, first, value⟩ := shiftToTargetExponent_eq h fine least full (by nlinarith)
    have rounded : em.roundedMantissa = n := by
      refine value.roundedMantissa ?_ ?_ fun odd => ⟨?_, ?_⟩
      · rw [le_div_iff₀ size]
        nlinarith
      · rwa [div_le_iff₀ size]
      · rw [lt_div_iff₀ size]
        nlinarith [(rounds.inside odd).1]
      · rw [div_lt_iff₀ size]
        exact (rounds.inside odd).2
    refine roundWithAccuracy_eq s first canonical ?_ (by rw [rounded])
    rw [rounded]
    exact canonical.full.imp_right le_of_eq

end Spreadsheet.Binary64
