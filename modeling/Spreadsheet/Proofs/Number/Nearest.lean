import Mathlib
import Spreadsheet.Decimal.Numeral
import Spreadsheet.Proofs.Number.Stored

/-!
# `Proofs/Number/Nearest.lean` — a decimal numeral is the number nearest to it

A numeral is evaluated on one of two ways. Short ones, of at most 53 bits and with a power of ten
that is a number itself, are one product or quotient of numbers; all others are one product or
quotient of natural numbers. Either way what is rounded is the exact value of the numeral, and it
is rounded once, so that every numeral in the interval around a number comes to that number
(`toFloat_of_roundsTo`).

That a product or a quotient is right is shown for operands in the form in which numbers are
stored, with the exact value as a rational number beside them. What rounding makes of a value is
said by the interval around a number (`RoundsTo`), and each value lies in one such interval.
-/

set_option autoImplicit false

namespace Spreadsheet.Binary64

open Float.Model (UnpackedFloat totalExponent)
open Float.Model.Format (binary64)
open Float.Model.UnpackedFloat

variable {m n m' : ℕ} {e e' q : ℤ} {x : ℚ}

/-! ## Products and quotients -/

/-- A product in the interval of a number comes to it. -/
theorem mul_of_roundsTo {s s' : UnpackedFloat.Sign} {pos : 0 < m} {pos' : 0 < m'}
    (full : 2 ^ 52 ≤ m * m') (canonical : Canonical n q)
    (rounds : RoundsTo ((m * 2 ^ e) * (m' * 2 ^ e')) n q) :
    UnpackedFloat.mul binary64 (.finite s m e pos) (.finite s' m' e' pos') =
    magnitude (s * s') n q := by
  refine round_of_roundsTo _ canonical rounds ?_ (le_targetExponent (.inl full))
  have same : ((m * 2 ^ e) * (m' * 2 ^ e') / 2 ^ (e + e') : ℚ) = (m * m' : ℕ) := by
    rw [zpow_add₀ (by norm_num)]
    have := (two_zpow_pos e).ne'
    have := (two_zpow_pos e').ne'
    push_cast
    field_simp
  rw [same]
  exact represents_exact _

/-- A part of a whole is compared to a half by doubling it. -/
theorem compare_double (n : ℕ) (pos : 0 < m) : compare (2 * n) m = compare (n / m : ℚ) (1 / 2) := by
  have scale : StrictMono fun x : ℚ => x * (2 * m) := strictMono_mul_right_of_pos (by positivity)
  have twice : (n / m * (2 * m) : ℚ) = (2 * n : ℕ) := by
    push_cast
    field_simp
  have once : (1 / 2 * (2 * m) : ℚ) = m := by ring
  rw [← cmp_eq_compare, ← cmp_eq_compare, ← scale.cmp_map_eq, twice, once,
    Nat.strictMono_cast.cmp_map_eq]

/-- The remainder says where the quotient lies. -/
theorem represents_quotient (m : ℕ) (pos : 0 < m') :
    Represents (.ofMantissaAndAccuracy (m / m') (accuracyOfFraction (m % m') m')) (m / m') := by
  have size : (0 : ℚ) < m' := by exact_mod_cast pos
  -- The remainder, over the divisor, is what the quotient has behind the point.
  have cut : (m / m' : ℚ) = (m / m' : ℕ) + (m % m' : ℕ) / m' := by
    rw [eq_comm, add_div' _ _ _ size.ne', mul_comm]
    exact_mod_cast congrArg (fun k : ℕ => (k / m' : ℚ)) (Nat.div_add_mod m m')
  rw [cut]
  unfold accuracyOfFraction
  split
  next zero =>
    rw [zero, Nat.cast_zero, zero_div, add_zero]
    exact represents_exact _
  next more =>
    rw [compare_double _ pos]
    refine represents_inexact _ (div_pos ?_ size) ?_
    · exact_mod_cast Nat.pos_of_ne_zero more
    · rw [div_lt_one size]
      exact_mod_cast Nat.mod_lt m pos

/-- A quotient in the interval of a number comes to it. -/
theorem div_of_roundsTo {s s' : UnpackedFloat.Sign} {pos : 0 < m} {pos' : 0 < m'}
    (canonical : Canonical n q) (rounds : RoundsTo ((m * 2 ^ e) / (m' * 2 ^ e')) n q) :
    UnpackedFloat.div binary64 (.finite s m e pos) (.finite s' m' e' pos') =
    magnitude (s / s') n q := by
  obtain ⟨t, ht⟩ : ∃ t, t =
    min (e - e') (binary64.targetExponent (totalExponent m e - totalExponent m' e')) := ⟨_, rfl⟩
  obtain ⟨k, hk⟩ : ∃ k : ℕ, t + k = e - e' := Int.le.dest (ht.le.trans (min_le_left _ _))
  have core : divCore binary64 m e m' e' =
    (m <<< k / m', t, accuracyOfFraction (m <<< k % m') m') := by
    unfold divCore
    dsimp only
    rw [← ht, ← hk, add_sub_cancel_left, Int.toNat_natCast]
  unfold UnpackedFloat.div
  dsimp only
  rw [core]
  dsimp only
  -- The quotient is formed with so many bits that rounding it once is rounding the exact one.
  refine round_of_roundsTo _ canonical rounds ?_ ?_
  · have same : ((m * 2 ^ e) / (m' * 2 ^ e') / 2 ^ t : ℚ) = (m <<< k : ℕ) / m' := by
      rw [Nat.shiftLeft_eq, show e = e' + t + k by omega, zpow_add₀ (by norm_num),
        zpow_add₀ (by norm_num)]
      have := (two_zpow_pos e').ne'
      have := (two_zpow_pos t).ne'
      push_cast
      field_simp
      norm_num
    rw [same]
    exact represents_quotient _ pos'
  · refine le_targetExponent (or_iff_not_imp_right.2 fun wide => ?_)
    have bound := ht.le.trans (min_le_right _ _)
    rw [targetExponent_binary64, totalExponent, totalExponent] at bound
    have low := Nat.log2_self_le pos.ne'
    have high := Nat.lt_log2_self (n := m')
    rw [Nat.le_div_iff_mul_le pos', Nat.shiftLeft_eq]
    -- It has 53 bits at least: the dividend was shifted as far as its length asks for.
    calc 2 ^ 52 * m' ≤ 2 ^ 52 * 2 ^ (m'.log2 + 1) := Nat.mul_le_mul_left _ high.le
      _ = 2 ^ (m'.log2 + 53) := by rw [← pow_add]; congr 1; omega
      _ ≤ 2 ^ (m.log2 + k) := Nat.pow_le_pow_right (by norm_num) (by omega)
      _ = 2 ^ m.log2 * 2 ^ k := pow_add _ _ _
      _ ≤ m * 2 ^ k := Nat.mul_le_mul_right _ low

/-! ## Numerals -/

/-- Magnitudes that round to a finite number are less than a power of ten. -/
theorem RoundsTo.lt_of_top (rounds : RoundsTo x n q) (canonical : Canonical n q) (top : q ≤ 971) :
    x < 10 ^ (310 : ℤ) := by
  have bits : (n : ℚ) + 1 ≤ 2 ^ 53 := by exact_mod_cast canonical.bits
  have large : (2 : ℚ) ^ q ≤ 2 ^ (971 : ℤ) := zpow_le_zpow_right₀ (by norm_num) top
  have size := two_zpow_pos q
  have tens : (2 : ℚ) ^ 53 * 2 ^ 971 < 10 ^ 310 := by
    exact_mod_cast (by decide +kernel : 2 ^ 53 * 2 ^ 971 < 10 ^ 310)
  calc x ≤ (n + 1 / 2) * 2 ^ q := rounds.high
    _ ≤ 2 ^ 53 * 2 ^ q := by nlinarith
    _ ≤ 2 ^ 53 * 2 ^ (971 : ℤ) := by linarith
    _ < 10 ^ (310 : ℤ) := tens

/-- Magnitudes that do not round to zero are greater than a power of ten. -/
theorem RoundsTo.gt_of_pos (rounds : RoundsTo x n q) (canonical : Canonical n q) (pos : 0 < n) :
    10 ^ (-330 : ℤ) < x := by
  have some : (1 : ℚ) ≤ n := by exact_mod_cast pos
  have reach := below_le n q
  have small : (2 : ℚ) ^ (-1074 : ℤ) ≤ 2 ^ q := zpow_le_zpow_right₀ (by norm_num) canonical.least
  have size := two_zpow_pos q
  have tens : (2 : ℚ) ^ 1075 < 10 ^ 330 := by
    exact_mod_cast (by decide +kernel : 2 ^ 1075 < 10 ^ 330)
  calc (10 : ℚ) ^ (-330 : ℤ) = (10 ^ 330)⁻¹ := zpow_neg _ _
    _ < (2 ^ 1075)⁻¹ := inv_strictAnti₀ (by positivity) tens
    _ = 1 / 2 * 2 ^ (-1074 : ℤ) := by rw [pow_succ, mul_inv, zpow_neg, mul_comm, one_div]; rfl
    _ ≤ 1 / 2 * 2 ^ q := by linarith
    _ ≤ (n - below n q) * 2 ^ q := by nlinarith
    _ ≤ x := rounds.low

/-- What is too large for the finite numbers is stored as infinite. -/
theorem pack_of_le (rounds : RoundsTo x n q) (canonical : Canonical n q) (s : UnpackedFloat.Sign)
    (large : 10 ^ (310 : ℤ) ≤ x) :
    Float.Model.pack (magnitude s n q) = .pack (.infinity s) := by
  have top : 971 < q := by
    by_contra top
    exact absurd (rounds.lt_of_top canonical (not_lt.1 top)) (not_lt.2 large)
  have full : 2 ^ 52 ≤ n := canonical.full.resolve_right (by omega)
  exact pack_of_large s (by omega) top

/-- What is too small for the numbers is zero. -/
theorem magnitude_of_ge (rounds : RoundsTo x n q) (canonical : Canonical n q)
    (s : UnpackedFloat.Sign) (small : x ≤ 10 ^ (-330 : ℤ)) :
    magnitude s n q = .zero s := by
  refine dif_neg fun pos => ?_
  exact absurd (rounds.gt_of_pos canonical pos) (not_lt.2 small)

/-- The count of digits says between which powers of ten a natural number lies. -/
theorem digitCount_bounds (pos : 0 < m) :
    ∃ k, Decimal.digitCount m = k + 1 ∧ 10 ^ k ≤ m ∧ m < 10 ^ (k + 1) := by
  have count : Decimal.digitCount m = (Nat.toDigits 10 m).length := if_neg pos.ne'
  have upper : ∀ k, 0 < k → (Decimal.digitCount m ≤ k ↔ m < 10 ^ k) := fun k hk => by
    rw [count]
    exact Nat.length_toDigits_le_iff (by norm_num) hk
  obtain ⟨k, hk⟩ : ∃ k, Decimal.digitCount m = k + 1 := by
    rw [count]
    exact ⟨_, (Nat.succ_pred_eq_of_pos Nat.length_toDigits_pos).symm⟩
  refine ⟨k, hk, ?_, (upper _ k.succ_pos).1 hk.le⟩
  rcases Nat.eq_zero_or_pos k with rfl | more
  · exact pos
  · rw [← not_lt, ← upper k more, hk]
    exact k.lt_irrefl

/-- The count of digits and the exponent say between which powers of ten a magnitude lies. -/
theorem scale_bounds (pos : 0 < m) (e : ℤ) :
    (10 : ℚ) ^ (e + Decimal.digitCount m - 1) ≤ m * 10 ^ e ∧
    (m * 10 ^ e : ℚ) < 10 ^ (e + Decimal.digitCount m) := by
  obtain ⟨k, count, least, greatest⟩ := digitCount_bounds pos
  have size : (0 : ℚ) < 10 ^ e := by positivity
  have split : ∀ k : ℕ, (10 : ℚ) ^ (e + k) = (10 ^ k : ℕ) * 10 ^ e := fun k => by
    rw [zpow_add₀ (by norm_num), zpow_natCast, mul_comm]
    push_cast
    rfl
  rw [count, show e + (k + 1 : ℕ) - 1 = e + k by push_cast; ring, split, split]
  exact ⟨mul_le_mul_of_nonneg_right (by exact_mod_cast least) size.le,
    mul_lt_mul_of_pos_right (by exact_mod_cast greatest) size⟩

theorem ten_zpow_mono {a b : ℤ} (h : a ≤ b) : (10 : ℚ) ^ a ≤ 10 ^ b :=
  zpow_le_zpow_right₀ (by norm_num) h

/-- The exact value of a numeral is rounded, but for those that are far too large or small. -/
theorem pack_ofScientific (pos : 0 < m) (canonical : Canonical n q)
    (rounds : RoundsTo (m * 10 ^ e) n q) :
    Float.Model.pack (UnpackedFloat.ofScientific binary64 m e) =
    .pack (magnitude .positive n q) := by
  obtain ⟨low, high⟩ := scale_bounds pos e
  obtain ⟨k, count, least, -⟩ := digitCount_bounds pos
  have log := (Nat.le_log2 pos.ne').2 ((Nat.pow_le_pow_left (by norm_num) k).trans least)
  unfold UnpackedFloat.ofScientific
  rw [dif_neg pos.ne', show (2 ^ binary64.exponentBits : ℤ) = 2048 from rfl]
  split
  -- Beyond what can be stored there is infinity, and below it zero, without forming the value.
  next large => exact (pack_of_le rounds canonical _ ((ten_zpow_mono (by omega)).trans low)).symm
  split
  next small => rw [magnitude_of_ge rounds canonical _ (high.le.trans (ten_zpow_mono (by omega)))]
  refine congrArg _ ?_
  split
  next whole =>
    obtain ⟨k, rfl⟩ := Int.eq_ofNat_of_zero_le whole
    refine mul_of_roundsTo ?_ canonical ?_
    · have : 0 < 10 ^ (k : ℤ).toNat := by positivity
      rw [Nat.shiftLeft_eq, show binary64.mantissaBits = 53 from rfl]
      nlinarith
    · have same : ((m <<< binary64.mantissaBits : ℕ) * 2 ^ (-binary64.mantissaBits : ℤ) *
          ((10 ^ (k : ℤ).toNat : ℕ) * 2 ^ (0 : ℤ)) : ℚ) = m * 10 ^ (k : ℤ) := by
        rw [Nat.shiftLeft_eq, zpow_neg, Int.toNat_natCast, zpow_natCast, zpow_natCast]
        push_cast
        field_simp
      rwa [same]
  -- A negative exponent of ten makes a quotient of two natural numbers.
  next part =>
    obtain ⟨k, rfl⟩ : ∃ k : ℕ, e = -k := ⟨e.natAbs, by omega⟩
    refine div_of_roundsTo canonical ?_
    have same : (m * 2 ^ (0 : ℤ) / ((10 ^ (- -(k : ℤ)).toNat : ℕ) * 2 ^ (0 : ℤ)) : ℚ) =
      m * 10 ^ (-k : ℤ) := by
      rw [neg_neg, Int.toNat_natCast, zpow_neg, zpow_natCast]
      push_cast
      field_simp
    rwa [same]

/-- A mantissa is widened until its exponent is small enough, and stands for the same. -/
theorem exists_decreaseExponent (m : ℕ) (e t : ℤ) :
    ∃ k : ℕ, decreaseExponent m e t = (m * 2 ^ k, e - k) ∧ e - k = min e t ∧
    ((m * 2 ^ k : ℕ) * 2 ^ (e - k) : ℚ) = m * 2 ^ e := by
  refine ⟨(e - t).toNat, ?_, by omega, ?_⟩
  · unfold decreaseExponent
    dsimp only
    rw [Nat.shiftLeft_eq]
  · push_cast
    rw [mul_assoc, ← zpow_natCast, ← zpow_add₀ (by norm_num), add_sub_cancel]

theorem log2_mul_two_pow (pos : 0 < m) (k : ℕ) : (m * 2 ^ k).log2 = m.log2 + k := by
  have low := Nat.log2_self_le pos.ne'
  have high := Nat.lt_log2_self (n := m)
  have wide : 0 < m * 2 ^ k := by positivity
  apply le_antisymm
  · rw [← Nat.lt_succ_iff, Nat.log2_lt wide.ne', Nat.succ_eq_add_one, Nat.add_right_comm,
      pow_add _ (m.log2 + 1)]
    exact Nat.mul_lt_mul_of_pos_right high (by positivity)
  · rw [Nat.le_log2 wide.ne', pow_add]
    exact Nat.mul_le_mul_right _ low

/-- A mantissa in the interval of a number comes to it. -/
theorem round_eq (s : UnpackedFloat.Sign) (pos : 0 < m) (canonical : Canonical n q)
    (rounds : RoundsTo (m * 2 ^ e) n q) :
    UnpackedFloat.round binary64 s m e = magnitude s n q := by
  have target := targetExponent_totalExponent m e
  obtain ⟨k, wide, place, same⟩ :=
    exists_decreaseExponent m e (binary64.targetExponent (totalExponent m e))
  unfold UnpackedFloat.round
  dsimp only
  rw [wide]
  refine round_of_roundsTo s canonical rounds ?_ ?_
  · rw [← same, mul_div_cancel_right₀ _ (two_zpow_pos _).ne']
    exact represents_exact _
  · rw [targetExponent_totalExponent, log2_mul_two_pow pos]
    omega

/-- A natural number of at most 53 bits is a number. -/
theorem exists_full (pos : 0 < m) (bits : m < 2 ^ 53) :
    ∃ n q, Canonical n q ∧ 2 ^ 52 ≤ n ∧ q ≤ 0 ∧ (m : ℚ) = n * 2 ^ q := by
  have log : m.log2 < 53 := (Nat.log2_lt pos.ne').2 bits
  obtain ⟨d, hd⟩ : ∃ d : ℕ, m.log2 + d = 52 := ⟨52 - m.log2, by omega⟩
  have full : 2 ^ 52 ≤ m * 2 ^ d := by
    rw [← hd, pow_add]
    exact Nat.mul_le_mul_right _ (Nat.log2_self_le pos.ne')
  have less : m * 2 ^ d < 2 ^ 53 := by
    rw [show 53 = m.log2 + 1 + d by omega, pow_add]
    exact Nat.mul_lt_mul_of_pos_right Nat.lt_log2_self (by positivity)
  refine ⟨m * 2 ^ d, -d, ⟨less, by omega, .inl full⟩, full, by omega, ?_⟩
  rw [zpow_neg, zpow_natCast]
  push_cast
  field_simp

/-- Turning a natural number of at most 53 bits into a number loses nothing. -/
theorem unpack_toFloat (pos : 0 < m) (bits : m < 2 ^ 53) :
    ∃ k q pos', m.toUInt64.toFloat.toModel.unpack = .finite .positive k q pos' ∧ 2 ^ 52 ≤ k ∧
    (k * 2 ^ q : ℚ) = m := by
  obtain ⟨n, q, canonical, full, small, same⟩ := exists_full pos bits
  have stored : magnitude .positive n q = .finite .positive n q (by omega) := dif_pos (by omega)
  have exact : (m * 2 ^ (0 : ℤ) : ℚ) = n * 2 ^ q := by rw [zpow_zero, mul_one, same]
  -- Fewer than 53 bits fit, so rounding leaves the value as it is.
  have rounded : UnpackedFloat.round binary64 .positive m 0 = magnitude .positive n q :=
    round_eq .positive pos canonical (exact ▸ roundsTo_self n q)
  refine ⟨_, _, by omega, ?_, full, same.symm⟩
  rw [← stored, ← unpack_pack .positive canonical (by omega), ← rounded]
  show (Float.Model.pack (UnpackedFloat.normalize binary64
    (m.toUInt64.toNat : ℕ) 0 .positive)).unpack = _
  have value : m.toUInt64.toNat = m := Nat.mod_eq_of_lt (by omega)
  have positive : compare (m : ℤ) 0 = .gt := compare_gt_iff_gt.2 (by omega)
  rw [value]
  unfold UnpackedFloat.normalize
  rw [positive]
  rfl

/-- The powers of ten that are kept are exact. -/
theorem ratio_powerOfTen : ∀ k : Fin Float.exactlyRepresentablePowersOfTen.size,
    (Decimal.Binary.ofFloat? Float.exactlyRepresentablePowersOfTen[k]).any
      (fun b => !b.negative && b.ratio.1 == 10 ^ k.val * b.ratio.2) = true := by
  decide

theorem unpack_powerOfTen {k : ℕ} (h : k < Float.exactlyRepresentablePowersOfTen.size) :
    ∃ n q pos, Float.exactlyRepresentablePowersOfTen[k].toModel.unpack = .finite .positive n q pos ∧
      (n * 2 ^ q : ℚ) = 10 ^ k := by
  obtain ⟨b, hb, exact⟩ := (Option.any_eq_true _ _).1 (ratio_powerOfTen ⟨k, h⟩)
  rw [Bool.and_eq_true, Bool.not_eq_true', beq_iff_eq] at exact
  obtain ⟨positive, exact⟩ := exact
  have size : (0 : ℚ) < b.ratio.2 := by
    show (0 : ℚ) < (2 ^ (-b.q).toNat : ℕ)
    positivity
  have value : (b.m * 2 ^ b.q : ℚ) = 10 ^ k := by
    have := ratio_eq b
    rw [exact, Nat.cast_mul] at this
    have := mul_right_cancel₀ size.ne' this
    rw [← this]
    push_cast
    rfl
  -- The mantissa is not zero because the power is not.
  have pos : 0 < b.m := by
    rw [Nat.pos_iff_ne_zero]
    intro zero
    rw [zero, Nat.cast_zero, zero_mul] at value
    exact absurd value (by positivity)
  obtain ⟨-, -, eq⟩ := unpack_of_ofFloat? hb
  rw [positive] at eq
  exact ⟨_, _, pos, eq.trans (dif_pos pos), value⟩

/-- Numerals in the interval of a number are read as it, on either way. -/
theorem float_ofScientific (pos : 0 < m) (canonical : Canonical n q)
    (rounds : RoundsTo (m * 10 ^ e) n q) :
    Float.ofScientific m (decide (e < 0)) e.natAbs =
    .ofModel (.pack (magnitude .positive n q)) := by
  unfold Float.ofScientific
  split
  next small =>
    obtain ⟨k, q', pos', digits, full, value⟩ := unpack_toFloat pos small.1
    have index : e.natAbs < Float.exactlyRepresentablePowersOfTen.size := Nat.lt_succ_of_le small.2
    obtain ⟨k', q'', pos'', power, value'⟩ := unpack_powerOfTen index
    dsimp only
    split
    next part =>
      -- Both operands are stored exactly, so their quotient is the value of the numeral.
      have same : (k * 2 ^ q' / (k' * 2 ^ q'') : ℚ) = m * 10 ^ e := by
        rw [value, value', div_eq_mul_inv, ← zpow_natCast, ← zpow_neg]
        congr 2
        have := of_decide_eq_true part
        omega
      show Float.ofModel (.pack (UnpackedFloat.div binary64 m.toUInt64.toFloat.toModel.unpack _)) =
        _
      rw [digits, power, div_of_roundsTo canonical (by rwa [same])]
      rfl
    next whole =>
      have same : (k * 2 ^ q' * (k' * 2 ^ q'') : ℚ) = m * 10 ^ e := by
        rw [value, value', ← zpow_natCast]
        congr 2
        have := of_decide_eq_false (Bool.eq_false_iff.2 whole)
        omega
      show Float.ofModel (.pack (UnpackedFloat.mul binary64 m.toUInt64.toFloat.toModel.unpack _)) =
        _
      rw [digits, power, mul_of_roundsTo (by nlinarith) canonical (by rwa [same])]
      rfl
  next =>
    have exponent : (if decide (e < 0) = true then Int.negOfNat e.natAbs else Int.ofNat e.natAbs) =
      e := by
      split
      next negative =>
        have := of_decide_eq_true negative
        rw [Int.negOfNat_eq]
        show -(e.natAbs : ℤ) = e
        omega
      next nonneg =>
        have := of_decide_eq_false (Bool.eq_false_iff.2 nonneg)
        show (e.natAbs : ℤ) = e
        omega
    dsimp only
    rw [exponent, Float.Model.ofScientific, pack_ofScientific pos canonical rounds]

end Spreadsheet.Binary64

namespace Spreadsheet.Decimal

open Binary64

/-- What a magnitude is. -/
def Scaled.value (s : Scaled) : ℚ := s.digits * 10 ^ s.exponent

/-- A numeral in the interval of a number comes to that number, and to infinity where the number
is none. -/
theorem Scaled.toFloat_of_roundsTo {s : Scaled} {n : ℕ} {q : ℤ} (canonical : Canonical n q)
    (rounds : RoundsTo s.value n q) :
    s.toFloat = .ofModel (.pack (magnitude .positive n q)) := by
  unfold Scaled.toFloat
  dsimp only
  -- The three ways out before the value is formed: zero, too small, and too large.
  rcases Nat.eq_zero_or_pos s.digits with zero | pos
  · have small : s.value ≤ 10 ^ (-330 : ℤ) := by
      rw [Scaled.value, zero, Nat.cast_zero, zero_mul]
      positivity
    rw [if_pos (.inl zero), magnitude_of_ge rounds canonical _ small]
    rfl
  obtain ⟨low, high⟩ := scale_bounds pos s.exponent
  split
  next small =>
    rw [magnitude_of_ge rounds canonical _ (high.le.trans (ten_zpow_mono (by omega)))]
    rfl
  split
  next large =>
    rw [pack_of_le rounds canonical _ ((ten_zpow_mono (by omega)).trans low)]
    decide
  next => exact float_ofScientific pos canonical rounds

/-- What a numeral comes to depends on its value alone. -/
theorem Scaled.toFloat_congr {s s' : Scaled} (same : s.value = s'.value) :
    s.toFloat = s'.toFloat := by
  obtain ⟨m, q, canonical, rounds⟩ :=
    exists_roundsTo (x := s.value) (by unfold Scaled.value; positivity)
  rw [toFloat_of_roundsTo canonical rounds, toFloat_of_roundsTo canonical (same ▸ rounds)]

/-- A numeral that comes to a finite number, but for the sign, lies in the interval around it. -/
theorem Scaled.roundsTo_of_ofFloat? {s : Scaled} {x : Float} {b : Binary}
    (h : Binary.ofFloat? x = some b) (eq : x = s.toFloat ∨ x = -s.toFloat) :
    RoundsTo s.value b.m b.q := by
  obtain ⟨m, q, canonical, rounds⟩ :=
    exists_roundsTo (x := s.value) (by unfold Scaled.value; positivity)
  obtain ⟨canonical', -, unpacked⟩ := unpack_of_ofFloat? h
  rw [toFloat_of_roundsTo canonical rounds] at eq
  -- What it is rounded to is stored or too large for that, and then the number is not finite.
  rcases le_or_gt q 971 with top | large
  · have stored : ∃ s, x = .ofModel (.pack (magnitude s m q)) := by
      rw [neg_pack canonical top] at eq
      rcases eq with eq | eq
      · exact ⟨_, eq⟩
      · exact ⟨_, eq⟩
    obtain ⟨sign, rfl⟩ := stored
    obtain ⟨-, rfl, rfl⟩ :=
      magnitude_inj canonical canonical' ((unpack_pack _ canonical top).symm.trans unpacked)
    exact rounds
  · have infinite : x.isFinite = false := by
      rw [pack_of_large _ (by have := canonical.full; omega) large] at eq
      rcases eq with rfl | rfl <;> decide
    rw [Binary.ofFloat?, infinite] at h
    cases h

/-- A numeral in the interval of a number, with the sign of the number, is that number. -/
theorem Scaled.signed_toFloat {s : Scaled} {x : Float} {b : Binary} (h : Binary.ofFloat? x = some b)
    (rounds : RoundsTo s.value b.m b.q) : (if b.negative then -s.toFloat else s.toFloat) = x := by
  obtain ⟨canonical, -, -⟩ := unpack_of_ofFloat? h
  rw [toFloat_of_roundsTo canonical rounds]
  exact (eq_of_ofFloat? h).symm

end Spreadsheet.Decimal
