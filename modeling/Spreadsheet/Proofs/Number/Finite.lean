import Mathlib
import Spreadsheet.Proofs.Number.Whole

/-!
# `Proofs/Number/Finite.lean` — operations that stay finite

A sum or a quotient is finite if the exact one is not above the greatest number, and all that has
to be known of the operands for that is how large they are, their signs aside (`Within`). Rounding
at most doubles a number, which is far more than it ever does, and is enough for the few sums and
quotients that nothing checks for being finite.

A number within a bound is stored in canonical form, with a mantissa and an exponent, and the
bound is one on the exact value. So operations are compared with exact ones, and bounds add up
like the numbers do.
-/

set_option autoImplicit false

namespace Spreadsheet.Binary64

open Float.Model (UnpackedFloat)
open Float.Model.Format (binary64)
open Float.Model.UnpackedFloat

/-- A finite number that is at most so large, its sign aside. -/
def Within (b : ℚ) (x : Float) : Prop :=
  ∃ s m q, Canonical m q ∧ q ≤ 971 ∧ x.toModel.unpack = magnitude s m q ∧ (m * 2 ^ q : ℚ) ≤ b

variable {x y : Float} {a b r : ℚ} {m n : ℕ} {e q : ℤ} {s : UnpackedFloat.Sign}

theorem Within.isFinite (h : Within b x) : x.isFinite = true := by
  obtain ⟨s, m, q, -, -, stored, -⟩ := h
  show x.toModel.unpack.isFinite = true
  rw [stored]
  exact magnitude_isFinite s m q

theorem Within.mono (h : Within a x) (le : a ≤ b) : Within b x := by
  obtain ⟨s, m, q, canonical, top, stored, bound⟩ := h
  exact ⟨s, m, q, canonical, top, stored, bound.trans le⟩

theorem Within.nonneg (h : Within b x) : 0 ≤ b := by
  obtain ⟨s, m, q, -, -, -, bound⟩ := h
  exact le_trans (mul_nonneg m.cast_nonneg (two_zpow_pos q).le) bound

/-- A finite number is not above the greatest number. -/
theorem within_greatest (finite : x.isFinite = true) : Within greatest x := by
  obtain ⟨b, hb⟩ : ∃ b, Decimal.Binary.ofFloat? x = some b := ⟨_, if_pos finite⟩
  obtain ⟨canonical, top, stored⟩ := unpack_of_ofFloat? hb
  refine ⟨_, _, _, canonical, top, stored, ?_⟩
  have bits : (b.m : ℚ) + 1 ≤ 2 ^ 53 := by exact_mod_cast canonical.bits
  exact mul_le_mul (by linarith) (zpow_le_zpow_right₀ (by norm_num) top) (two_zpow_pos _).le
    (by norm_num)

/-- What is rounded and is not above the greatest number is finite, and at most twice as large. -/
theorem within_of_roundsTo (s : UnpackedFloat.Sign) (canonical : Canonical m q)
    (rounds : RoundsTo r m q) (nonneg : 0 ≤ r) (bound : r ≤ greatest) :
    Within (2 * r) (.ofModel (.pack (magnitude s m q))) := by
  have top := rounds.top_of_le canonical bound
  refine ⟨s, m, q, canonical, top, unpack_pack s canonical top, ?_⟩
  rcases Nat.eq_zero_or_pos m with rfl | pos
  · rw [Nat.cast_zero, zero_mul]
    linarith
  · have some : (1 : ℚ) ≤ m := by exact_mod_cast pos
    have size := two_zpow_pos q
    have reach := below_le m q
    have low := rounds.low
    nlinarith

/-- A mantissa is rounded to a number that is at most twice as large. -/
theorem within_round (s : UnpackedFloat.Sign) (pos : 0 < m) (bound : (m * 2 ^ e : ℚ) ≤ b)
    (small : b ≤ greatest) :
    Within (2 * b) (.ofModel (.pack (UnpackedFloat.round binary64 s m e))) := by
  have nonneg : (0 : ℚ) ≤ m * 2 ^ e := mul_nonneg m.cast_nonneg (two_zpow_pos e).le
  obtain ⟨n, q, canonical, rounds⟩ := exists_roundsTo nonneg
  rw [round_eq s pos canonical rounds]
  exact (within_of_roundsTo s canonical rounds nonneg (bound.trans small)).mono (by linarith)

theorem within_zero (s : UnpackedFloat.Sign) (nonneg : 0 ≤ b) :
    Within b (.ofModel (.pack (.zero s))) := by
  refine ⟨s, 0, -1074, ⟨by norm_num, le_rfl, .inr rfl⟩, by norm_num, ?_, ?_⟩
  · cases s <;> rfl
  · rw [Nat.cast_zero, zero_mul]
    exact nonneg

/-! ## Operations -/

theorem Within.neg (h : Within b x) : Within b (-x) := by
  obtain ⟨s, m, q, canonical, top, stored, bound⟩ := h
  have turned : (magnitude s m q).neg = magnitude (-s) m q := by
    unfold magnitude
    split <;> rfl
  refine ⟨-s, m, q, canonical, top, ?_, bound⟩
  show (Float.Model.pack x.toModel.unpack.neg).unpack = _
  rw [stored, turned, unpack_pack _ canonical top]

theorem isFinite_neg (finite : x.isFinite = true) : (-x).isFinite = true :=
  (within_greatest finite).neg.isFinite

/-- A sum is at most twice as large as the exact one. -/
theorem within_normalize (z : ℤ) (bound : ((z.natAbs : ℕ) * 2 ^ e : ℚ) ≤ b) (small : b ≤ greatest) :
    Within (2 * b) (.ofModel (.pack (UnpackedFloat.normalize binary64 z e .positive))) := by
  have nonneg : 0 ≤ b := le_trans (mul_nonneg (Nat.cast_nonneg _) (two_zpow_pos e).le) bound
  unfold UnpackedFloat.normalize
  split
  -- The sign is taken off and put back, and the size is rounded alike.
  next negative =>
    have below : z < 0 := compare_lt_iff_lt.1 negative
    have same : (-z).toNat = z.natAbs := by omega
    rw [same]
    exact within_round _ (by omega) bound small
  next => exact within_zero _ (by linarith)
  next positive =>
    have above : 0 < z := compare_gt_iff_gt.1 positive
    have same : z.toNat = z.natAbs := by omega
    rw [same]
    exact within_round _ (by omega) bound small

theorem natAbs_apply (s : UnpackedFloat.Sign) (n : ℕ) : (s.apply n : ℤ).natAbs = n := by
  cases s
  · exact Int.natAbs_neg n
  · rfl

theorem Within.add (hx : Within a x) (hy : Within b y) (small : a + b ≤ greatest) :
    Within (2 * (a + b)) (x + y) := by
  have nonneg := hx.nonneg
  have nonneg' := hy.nonneg
  obtain ⟨s, m, e, canonical, top, stored, bound⟩ := hx
  obtain ⟨s', m', e', canonical', top', stored', bound'⟩ := hy
  show Within _ (.ofModel (.pack (UnpackedFloat.add binary64 x.toModel.unpack y.toModel.unpack)))
  rw [stored, stored']
  -- A zero is unpacked by itself, and added without rounding.
  rcases Nat.eq_zero_or_pos m with rfl | pos <;> rcases Nat.eq_zero_or_pos m' with rfl | pos'
  · obtain ⟨s, zero⟩ := zero_add_zero s s'
    show Within _ (.ofModel (.pack (UnpackedFloat.add binary64 (.zero _) (.zero _))))
    rw [zero]
    exact within_zero s (by linarith)
  · have sum : UnpackedFloat.add binary64 (magnitude s 0 e) (magnitude s' m' e') =
      magnitude s' m' e' := by
      rw [magnitude, magnitude, dif_neg (Nat.lt_irrefl 0), dif_pos pos']
      rfl
    rw [sum]
    exact ⟨s', m', e', canonical', top', unpack_pack s' canonical' top', by linarith⟩
  · have sum : UnpackedFloat.add binary64 (magnitude s m e) (magnitude s' 0 e') =
      magnitude s m e := by
      rw [magnitude, magnitude, dif_neg (Nat.lt_irrefl 0), dif_pos pos]
      rfl
    rw [sum]
    exact ⟨s, m, e, canonical, top, unpack_pack s canonical top, by linarith⟩
  -- Other numbers are brought to the smaller exponent, where their sum is exact before it is
  -- rounded.
  · obtain ⟨k, wide, place, same⟩ := exists_decreaseExponent m e (min e e')
    obtain ⟨k', wide', place', same'⟩ := exists_decreaseExponent m' e' (min e e')
    have least : e - k = min e e' := by omega
    have least' : e' - k' = min e e' := by omega
    rw [least] at same
    rw [least'] at same'
    have sum : UnpackedFloat.add binary64 (magnitude s m e) (magnitude s' m' e') =
        UnpackedFloat.normalize binary64 (s.apply (m * 2 ^ k : ℕ) + s'.apply (m' * 2 ^ k' : ℕ))
        (min e e') .positive := by
      rw [magnitude, magnitude, dif_pos pos, dif_pos pos', UnpackedFloat.add]
      dsimp only
      rw [wide, wide']
    rw [sum]
    refine within_normalize _ ?_ small
    have triangle : (s.apply (m * 2 ^ k : ℕ) + s'.apply (m' * 2 ^ k' : ℕ)).natAbs ≤ m * 2 ^ k +
      m' * 2 ^ k' := by
      refine (Int.natAbs_add_le _ _).trans (le_of_eq ?_)
      rw [natAbs_apply, natAbs_apply]
    calc (((s.apply (m * 2 ^ k : ℕ) + s'.apply (m' * 2 ^ k' : ℕ)).natAbs : ℕ) * 2 ^ min e e' : ℚ)
        ≤ ((m * 2 ^ k + m' * 2 ^ k' : ℕ) : ℚ) * 2 ^ min e e' :=
          mul_le_mul_of_nonneg_right (by exact_mod_cast triangle) (two_zpow_pos _).le
      _ = m * 2 ^ e + m' * 2 ^ e' := by rw [Nat.cast_add, add_mul, same, same']
      _ ≤ a + b := add_le_add bound bound'

/-- A number that is at least one, and no infinity. -/
def OneOrMore (y : Float) : Prop :=
  ∃ s m q pos, y.toModel.unpack = .finite s m q pos ∧ (1 : ℚ) ≤ m * 2 ^ q

/-- A quotient by one or more is at most twice as large as the dividend. -/
theorem Within.div (hx : Within a x) (hy : OneOrMore y) (small : a ≤ greatest) :
    Within (2 * a) (x / y) := by
  have nonneg := hx.nonneg
  obtain ⟨s, m, e, canonical, top, stored, bound⟩ := hx
  obtain ⟨s', m', e', pos', stored', unit⟩ := hy
  show Within _ (.ofModel (.pack (UnpackedFloat.div binary64 x.toModel.unpack y.toModel.unpack)))
  rw [stored, stored']
  rcases Nat.eq_zero_or_pos m with rfl | pos
  · exact within_zero (s / s') (by linarith)
  · have dividend : (0 : ℚ) ≤ m * 2 ^ e := mul_nonneg m.cast_nonneg (two_zpow_pos e).le
    have nonneg : (0 : ℚ) ≤ (m * 2 ^ e) / (m' * 2 ^ e') :=
      div_nonneg dividend (zero_le_one.trans unit)
    -- Divided by one or more, the exact quotient is no larger than the dividend.
    have less : (m * 2 ^ e) / (m' * 2 ^ e') ≤ a := (div_le_self dividend unit).trans bound
    obtain ⟨n, q, canonical, rounds⟩ := exists_roundsTo nonneg
    rw [magnitude, dif_pos pos, div_of_roundsTo canonical rounds]
    exact (within_of_roundsTo (s / s') canonical rounds nonneg (less.trans small)).mono
      (by linarith)

theorem isFinite_div (finite : x.isFinite = true) (hy : OneOrMore y) : (x / y).isFinite = true :=
  ((within_greatest finite).div hy le_rfl).isFinite

/-- What is no finite number stays none when it is divided by one or more. -/
theorem isFinite_of_div (hy : OneOrMore y) (finite : (x / y).isFinite = true) :
    x.isFinite = true := by
  obtain ⟨s, m, q, pos, stored, -⟩ := hy
  have finite : (Float.Model.pack
    (UnpackedFloat.div binary64 x.toModel.unpack y.toModel.unpack)).unpack.isFinite = true := finite
  show x.toModel.unpack.isFinite = true
  rw [stored] at finite
  -- Not-a-number and infinity stay what they are when they are divided.
  cases hx : x.toModel.unpack with
  | notANumber =>
    have none : (Float.Model.pack .notANumber).unpack.isFinite = false := by decide
    rw [hx] at finite
    exact absurd (none.symm.trans finite) Bool.false_ne_true
  | infinity s' =>
    have none : ∀ s, (Float.Model.pack (.infinity s)).unpack.isFinite = false := by
      intro s
      cases s <;> decide
    rw [hx] at finite
    exact absurd ((none (s' / s)).symm.trans finite) Bool.false_ne_true
  | _ => rfl

/-! ## Whole numbers -/

theorem within_ofNat (small : (n : ℚ) ≤ greatest) : Within (2 * n) (Float.ofNat n) := by
  obtain ⟨m, q, canonical, rounds⟩ := exists_roundsTo_nat n
  rw [ofNat_of_roundsTo canonical rounds]
  exact within_of_roundsTo _ canonical rounds n.cast_nonneg small

theorem within_ofInt (z : ℤ) (small : (z.natAbs : ℚ) ≤ greatest) :
    Within (2 * z.natAbs) (Float.ofInt z) := by
  cases z with
  | ofNat n => exact within_ofNat small
  | negSucc n => exact (within_ofNat small).neg

/-- The interval around a number below one ends before one: there is a place behind the point. -/
theorem one_le_of_roundsTo (canonical : Canonical m q) (rounds : RoundsTo n m q) (pos : 0 < n) :
    (1 : ℚ) ≤ m * 2 ^ q := by
  have size := two_zpow_pos q
  have whole : (1 : ℚ) ≤ n := by exact_mod_cast pos
  have high := rounds.high
  by_contra less
  rw [not_le] at less
  -- Without places behind the point the mantissa would have to be zero, but it is full there.
  rcases le_or_gt 0 q with coarse | fine
  · have step : (1 : ℚ) ≤ 2 ^ q := one_le_zpow₀ (by norm_num) coarse
    have full : 2 ^ 52 ≤ m := canonical.full.resolve_right (by omega)
    have some : (1 : ℚ) ≤ m := by exact_mod_cast (by omega : 1 ≤ m)
    nlinarith
  · obtain ⟨k, rfl⟩ : ∃ k : ℕ, q = -k := ⟨q.natAbs, by omega⟩
    have inverse : (2 : ℚ) ^ (-k : ℤ) * 2 ^ k = 1 := by
      rw [← zpow_natCast, ← zpow_add₀ (by norm_num), neg_add_cancel, zpow_zero]
    have power : (0 : ℚ) < 2 ^ k := by positivity
    have less : (m : ℚ) < (2 ^ k : ℕ) := by
      push_cast
      nlinarith
    have fits : (m : ℚ) + 1 ≤ 2 ^ k := by
      rw [Nat.cast_lt] at less
      exact_mod_cast less
    nlinarith

/-- The mantissa of a number that is one or more is not zero. -/
theorem pos_of_one_le (unit : 1 ≤ (m : ℚ) * 2 ^ q) : 0 < m := by
  by_contra none
  obtain rfl : m = 0 := by omega
  rw [Nat.cast_zero, zero_mul] at unit
  linarith

/-- A natural number other than zero is one or more, as long as it is finite. -/
theorem oneOrMore_ofNat (pos : 0 < n) (small : (n : ℚ) ≤ greatest) : OneOrMore (Float.ofNat n) := by
  obtain ⟨m, q, canonical, rounds⟩ := exists_roundsTo_nat n
  have unit := one_le_of_roundsTo canonical rounds pos
  have some := pos_of_one_le unit
  refine ⟨.positive, m, q, some, ?_, unit⟩
  rw [ofNat_of_roundsTo canonical rounds]
  show (Float.Model.pack (magnitude .positive m q)).unpack = _
  rw [unpack_pack _ canonical (rounds.top_of_le canonical small)]
  exact dif_pos some

end Spreadsheet.Binary64
