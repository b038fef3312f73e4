import Mathlib
import Spreadsheet.Decimal.Significant
import Spreadsheet.Proofs.Number.Nearest

/-!
# `Proofs/Number/Significant.lean` — what survives fifteen digits

Before a number is written it is brought to fifteen significant digits. The numbers that stay what
they are are those that some numeral of at most fifteen digits comes to (`denoised_eq_self_iff`).
For the digits that are kept are at least as near to the number as those of any such numeral
(`Kept.closer`), so that they lie in the interval around the number if the numeral does. Only
where the interval is shorter below than above that is not enough, but there the numerals stand
further apart than the numbers, and the digits that are kept are the numeral's.
-/

set_option autoImplicit false

namespace Spreadsheet.Decimal

open Binary64

variable {n d : ℕ} {places : ℕ} {s t : Scaled} {b : Binary}

/-- A rounded quotient is off by half at most. -/
theorem abs_sub_divideHalfEven_le (n : ℕ)
    (pos : 0 < d) : |(n : ℚ) - divideHalfEven n d * d| ≤ d / 2 := by
  have bounds : 2 * n ≤ (2 * divideHalfEven n d + 1) * d ∧
    2 * divideHalfEven n d * d ≤ 2 * n + d := by
    have cut := Nat.div_add_mod n d
    have less := Nat.mod_lt n pos
    -- Said of natural numbers, where the division is one with remainder.
    unfold divideHalfEven
    dsimp only
    generalize n / d = q at *
    generalize n % d = r at *
    subst cut
    split
    next half => constructor <;> nlinarith
    split
    next half => constructor <;> nlinarith
    next =>
      rcases Nat.mod_two_eq_zero_or_one q with even | odd
      · rw [even]
        constructor <;> nlinarith
      · rw [odd]
        constructor <;> nlinarith
  have up : (2 * n : ℚ) ≤ (2 * divideHalfEven n d + 1) * d := by exact_mod_cast bounds.1
  have down : (2 * divideHalfEven n d * d : ℚ) ≤ 2 * n + d := by exact_mod_cast bounds.2
  rw [abs_le]
  constructor <;> linarith

/-- The exact digits of a number. -/
theorem value_exact (b : Binary) : b.exact.value = b.m * 2 ^ b.q := by
  unfold Binary.exact Scaled.value
  split
  next whole =>
    obtain ⟨k, hk⟩ := Int.eq_ofNat_of_zero_le whole
    rw [hk, Int.toNat_natCast, Nat.pow_eq, zpow_natCast, zpow_zero]
    push_cast
    ring
  next part =>
    obtain ⟨k, hk⟩ : ∃ k : ℕ, b.q = -k := ⟨b.q.natAbs, by omega⟩
    have ten : (10 : ℚ) ^ k = 2 ^ k * 5 ^ k := by rw [← mul_pow]; norm_num
    rw [hk, neg_neg, Int.toNat_natCast, Nat.pow_eq, zpow_neg, zpow_neg, zpow_natCast,
      zpow_natCast, ten]
    push_cast
    field_simp

/-! ## The digits that are kept -/

/-- A magnitude `x` of the order `e + places` that loses what is below `10 ^ e` to `kept`. -/
structure Kept (places : ℕ) (x kept : ℚ) (e : ℤ) : Prop where
  multiple : ∃ k : ℕ, kept = k * 10 ^ e
  near : |x - kept| ≤ 10 ^ e / 2
  low : 10 ^ places * 10 ^ e ≤ x * 10
  high : x < 10 ^ places * 10 ^ e

/-- A numeral of few digits and of the order `e + places` has no digits below `10 ^ e` either. -/
theorem exists_multiple {e : ℤ} (few : t.digits < 10 ^ places)
    (large : 10 ^ places * 10 ^ e ≤ t.value * 10) :
    ∃ k : ℕ, t.value = k * 10 ^ e := by
  have ten : (10 : ℚ) ≠ 0 := by norm_num
  have size : (0 : ℚ) < 10 ^ t.exponent := by positivity
  have few : (t.digits : ℚ) < 10 ^ places := by exact_mod_cast few
  -- Compared by order, the last digit of the numeral is not below that of the multiple.
  have order : (10 : ℚ) ^ (places + e) < 10 ^ (places + (t.exponent + 1)) := by
    calc (10 : ℚ) ^ (places + e) = 10 ^ places * 10 ^ e := by rw [zpow_add₀ ten, zpow_natCast]
      _ ≤ t.digits * 10 ^ t.exponent * 10 := large
      _ < 10 ^ places * 10 ^ t.exponent * 10 := by nlinarith
      _ = 10 ^ (places + (t.exponent + 1)) := by
          rw [zpow_add₀ ten, zpow_natCast, zpow_add_one₀ ten, mul_assoc]
  have := (zpow_lt_zpow_iff_right₀ (by norm_num : (1 : ℚ) < 10)).1 order
  obtain ⟨k, hk⟩ := Int.le.dest (show e ≤ t.exponent by omega)
  refine ⟨t.digits * 10 ^ k, ?_⟩
  rw [Scaled.value, ← hk, zpow_add₀ ten, zpow_natCast]
  push_cast
  ring

/-- Rounding to some significant digits drops the others, if there are any. -/
theorem value_significant (places : ℕ) (s : Scaled) :
    s.digits < 10 ^ places ∧ (s.significant places).value = s.value ∨
      ∃ e, Kept places s.value (s.significant places).value e := by
  unfold Scaled.significant
  dsimp only
  generalize hk : digitCount s.digits - places = excess
  rcases Nat.eq_zero_or_pos s.digits with zero | digits
  · have excess : excess = 0 := by
      rw [← hk, zero]
      exact Nat.zero_sub _
    left
    simp [Scaled.value, zero, excess, divideHalfEven]
  obtain ⟨k, count, -, bound⟩ := digitCount_bounds digits
  rw [← count] at bound
  -- Either no digit is too many, and nothing is dropped, or the last place moves up by those that
  -- are.
  rcases Nat.eq_zero_or_pos excess with rfl | more
  · left
    have whole : divideHalfEven s.digits (Nat.pow 10 0) = s.digits := by
      unfold divideHalfEven
      simp [Nat.mod_one]
    refine ⟨bound.trans_le (Nat.pow_le_pow_right (by norm_num) (by omega)), ?_⟩
    rw [whole]
    simp [Scaled.value]
  right
  obtain ⟨low, high⟩ := scale_bounds digits s.exponent
  have count : (digitCount s.digits : ℤ) = places + excess := by omega
  have ten : (10 : ℚ) ≠ 0 := by norm_num
  have size : (0 : ℚ) < 10 ^ s.exponent := by positivity
  have unit : (10 : ℚ) ^ (s.exponent + excess) = (10 ^ excess : ℕ) * 10 ^ s.exponent := by
    rw [zpow_add₀ ten, zpow_natCast, mul_comm]
    push_cast
    rfl
  have order : (10 : ℚ) ^ places * 10 ^ (s.exponent + excess) =
    10 ^ (s.exponent + digitCount s.digits) := by
    rw [← zpow_natCast, ← zpow_add₀ ten, count]
    congr 1
    ring
  -- What is kept is a multiple of the new last place, near the value, and of its order.
  refine ⟨s.exponent + excess, ⟨_, rfl⟩, ?_, ?_, ?_⟩
  · have near := abs_sub_divideHalfEven_le s.digits (d := 10 ^ excess) (by positivity)
    show |(s.digits * 10 ^ s.exponent : ℚ) -
      divideHalfEven s.digits (10 ^ excess) * 10 ^ (s.exponent + excess)| ≤ _
    rw [unit, ← mul_assoc, ← sub_mul, abs_mul, abs_of_pos size, mul_div_right_comm]
    exact mul_le_mul_of_nonneg_right near size.le
  · rw [order]
    have := mul_le_mul_of_nonneg_right low (by norm_num : (0 : ℚ) ≤ 10)
    rwa [← zpow_add_one₀ ten, sub_add_cancel] at this
  · rw [order]
    exact high

section
variable {x kept : ℚ} {e : ℤ}

/-- Different multiples are apart. -/
theorem multiples_apart {k k' : ℕ} (h : k ≠ k') :
    (10 ^ e : ℚ) ≤ |(k * 10 ^ e - k' * 10 ^ e : ℚ)| := by
  have size : (0 : ℚ) < 10 ^ e := by positivity
  have apart : (1 : ℚ) ≤ |((k : ℤ) : ℚ) - ((k' : ℤ) : ℚ)| := by
    exact_mod_cast Int.one_le_abs (sub_ne_zero.2 (by exact_mod_cast h : (k : ℤ) ≠ k'))
  rw [← sub_mul, abs_mul, abs_of_pos size]
  push_cast at apart
  nlinarith

/-- What is kept is the nearest multiple. -/
theorem Kept.nearest (h : Kept places x kept e) (k : ℕ) : |x - kept| ≤ |x - k * 10 ^ e| := by
  obtain ⟨k', hk'⟩ := h.multiple
  rcases eq_or_ne k k' with rfl | ne
  · rw [hk']
  · have apart := multiples_apart (e := e) ne
    have near := h.near
    rw [hk'] at near ⊢
    have triangle := abs_sub_le (k * 10 ^ e : ℚ) x (k' * 10 ^ e)
    rw [abs_sub_comm (k * 10 ^ e : ℚ) x] at triangle
    linarith

/-- What is kept is at least as near as any numeral of as many digits. -/
theorem Kept.closer (h : Kept (places + 1) x kept e) (few : t.digits < 10 ^ (places + 1)) :
    |x - kept| ≤ |x - t.value| := by
  rcases le_or_gt (10 ^ (places + 1) * 10 ^ e) (t.value * 10) with large | small
  · obtain ⟨k, hk⟩ := exists_multiple few large
    rw [hk]
    exact h.nearest k
  · refine (h.nearest (10 ^ places)).trans ?_
    have low := h.low
    rw [pow_succ] at low small
    push_cast
    rw [abs_of_nonneg (by linarith), abs_of_nonneg (by linarith)]
    linarith

/-- What is kept is any numeral of as many digits that is nearer than half of the last place. -/
theorem Kept.eq_of_near (h : Kept places x kept e) (few : t.digits < 10 ^ places)
    (large : x ≤ t.value) (near : t.value - x < 10 ^ e / 2) : kept = t.value := by
  obtain ⟨k, hk⟩ := exists_multiple few (h.low.trans (by linarith))
  obtain ⟨k', hk'⟩ := h.multiple
  by_contra differ
  have ne : k' ≠ k := by
    rintro rfl
    exact differ (hk'.trans hk.symm)
  have apart := multiples_apart (e := e) ne
  rw [← hk, ← hk'] at apart
  have triangle := abs_sub_le kept x t.value
  have near' := h.near
  rw [abs_sub_comm kept x, abs_sub_comm x t.value, abs_of_nonneg (sub_nonneg.2 large)] at triangle
  linarith

/-- What is kept of a number lies in its interval, if some numeral of fifteen digits does. -/
theorem Kept.roundsTo {m : ℕ} {q : ℤ} (h : Kept trustedDigits (m * 2 ^ q) kept e)
    (few : t.digits < 10 ^ trustedDigits) (rounds : RoundsTo t.value m q) : RoundsTo kept m q := by
  have size := two_zpow_pos q
  have closer := h.closer few
  have low := rounds.low
  have high := rounds.high
  by_cases least : m = leastNormal ∧ -1074 < q
  · -- The interval is shorter below than above. Above it the numeral is so near that it is what
    -- is kept.
    have quarter : below m q = 1 / 4 := if_pos least
    obtain ⟨rfl, above⟩ := least
    rcases le_or_gt t.value (leastNormal * 2 ^ q) with under | greater
    · rw [quarter] at low
      rw [abs_of_nonneg (sub_nonneg.2 under)] at closer
      obtain ⟨up, down⟩ := abs_le.1 closer
      refine ⟨?_, by nlinarith, fun odd => absurd odd (by decide)⟩
      rw [quarter]
      nlinarith
    · have order : (leastNormal : ℚ) * 2 ^ q < 10 ^ trustedDigits * 10 ^ e := h.high
      have equal : kept = t.value := by
        refine h.eq_of_near few greater.le ?_
        norm_num [leastNormal, trustedDigits] at order high ⊢
        linarith
      rwa [equal]
  · have half : below m q = 1 / 2 := if_neg least
    have inside := rounds.inside
    rw [half] at low inside
    -- The numeral is within half a place of the number, and what is kept is not further away.
    have reach : |m * 2 ^ q - t.value| ≤ 2 ^ q / 2 := abs_le.2 ⟨by linarith, by linarith⟩
    obtain ⟨up, down⟩ := abs_le.1 (closer.trans reach)
    refine ⟨?_, by linarith, fun odd => ?_⟩
    · rw [half]
      linarith
    · obtain ⟨less, greater⟩ := inside odd
      have reach : |m * 2 ^ q - t.value| < 2 ^ q / 2 := abs_lt.2 ⟨by linarith, by linarith⟩
      obtain ⟨up, down⟩ := abs_lt.1 (closer.trans_lt reach)
      rw [half]
      exact ⟨by linarith, by linarith⟩

end

/-- The digits that are kept of a number lie in its interval, if those of some numeral of fifteen
digits do. -/
theorem roundsTo_significant (few : t.digits < 10 ^ trustedDigits)
    (rounds : RoundsTo t.value b.m b.q) :
    RoundsTo (b.exact.significant trustedDigits).value b.m b.q := by
  rcases value_significant trustedDigits b.exact with ⟨-, all⟩ | ⟨e, kept⟩
  · rw [all, value_exact]
    exact roundsTo_self _ _
  · rw [value_exact] at kept
    exact kept.roundsTo few rounds

/-! ## The numbers that stay what they are -/

/-- A number that some numeral of at most fifteen digits comes to, but for the sign. -/
def Short (x : Float) : Prop :=
  ∃ t : Scaled, t.digits < 10 ^ trustedDigits ∧ (x = t.toFloat ∨ x = -t.toFloat)

/-- What is kept of a magnitude can be written with as many digits. -/
theorem exists_short (s : Scaled) : ∃ t : Scaled, t.digits < 10 ^ trustedDigits ∧
    t.value = (s.significant trustedDigits).value := by
  rcases value_significant trustedDigits s with ⟨few, all⟩ | ⟨e, kept⟩
  · exact ⟨s, few, all.symm⟩
  · obtain ⟨k, hk⟩ := kept.multiple
    rcases Nat.lt_or_ge k (10 ^ trustedDigits) with few | many
    · exact ⟨⟨k, e⟩, few, hk.symm⟩
    · -- Rounding carried into a further digit, and all others are zeros.
      have size : (0 : ℚ) < 10 ^ e := by positivity
      have exact : k = 10 ^ trustedDigits := by
        have near := (abs_le.1 kept.near).1
        have high := kept.high
        rw [hk] at near
        have : (k : ℚ) < (10 ^ trustedDigits + 1 : ℕ) := by
          push_cast
          nlinarith
        rw [Nat.cast_lt] at this
        omega
      refine ⟨⟨1, e + trustedDigits⟩, (by decide : 1 < 10 ^ trustedDigits), ?_⟩
      rw [hk, exact, Scaled.value, zpow_add₀ (by norm_num), zpow_natCast]
      push_cast
      ring

/-- **A number stays what it is if fifteen digits are enough for it**, and only then. -/
theorem denoised_eq_self_iff {x : Float} (finite : x.isFinite = true) :
    denoised x = x ↔ Short x := by
  obtain ⟨b, hb⟩ : ∃ b, Binary.ofFloat? x = some b := ⟨_, if_pos finite⟩
  have kept : denoised x = if b.negative then -(b.exact.significant trustedDigits).toFloat
      else (b.exact.significant trustedDigits).toFloat := by
    unfold denoised
    rw [hb]
  rw [kept]
  constructor
  · intro same
    -- What was kept is itself a numeral of few digits, and the number is what it comes to.
    obtain ⟨t, few, value⟩ := exists_short b.exact
    refine ⟨t, few, ?_⟩
    rw [Scaled.toFloat_congr value, ← same]
    cases b.negative with
    | false => exact .inl rfl
    | true => exact .inr rfl
  · rintro ⟨t, few, eq⟩
    exact Scaled.signed_toFloat hb (roundsTo_significant few (Scaled.roundsTo_of_ofFloat? hb eq))

end Spreadsheet.Decimal
