import Mathlib
import Spreadsheet.Proofs.Number.Finite

/-!
# `Proofs/Number/Rank.lean` — whole numbers keep their order

The significand of a number is as long as its exponent allows, so of two numbers the one with the
larger exponent is the larger, and numbers are compared as the fractions that they stand for
(`compare_magnitude`). Natural numbers of 53 bits stand for themselves, and so they are in order
as numbers just if they are in order (`ofNat_le_ofNat_iff`).

A natural number other than zero is never the number zero, however large it is, and to divide by
it makes nothing finite infinite and nothing infinite finite (`isFinite_div_ofNat`).
-/

set_option autoImplicit false

namespace Spreadsheet.Binary64

open Float.Model (UnpackedFloat)
open Float.Model.Format (binary64)

variable {x y : Float} {m m' n k : ℕ} {q q' : ℤ}

theorem le_iff : x ≤ y ↔ (x.toModel.unpack.compare y.toModel.unpack).any Ordering.isLE := by
  show decide (x.toModel ≤ y.toModel) = true ↔ _
  rw [decide_eq_true_iff]
  rfl

/-! ## Comparing what numbers stand for -/

/-- The larger exponent belongs to the larger number, whatever the significands. -/
theorem lt_of_exponent_lt (canonical : Canonical m q) (canonical' : Canonical m' q')
    (less : q < q') :
    (m * 2 ^ q : ℚ) < m' * 2 ^ q' := by
  have least := canonical.least
  have full : 2 ^ 52 ≤ m' := canonical'.full.resolve_right (by omega)
  calc (m * 2 ^ q : ℚ) < 2 ^ 53 * 2 ^ q :=
        mul_lt_mul_of_pos_right (by exact_mod_cast canonical.bits) (two_zpow_pos q)
    _ = 2 ^ 52 * 2 ^ (q + 1) := by
        rw [zpow_add_one₀ (by norm_num)]
        ring
    _ ≤ m' * 2 ^ q' := by
        refine mul_le_mul (by exact_mod_cast full) ?_ (two_zpow_pos _).le m'.cast_nonneg
        exact zpow_le_zpow_right₀ (by norm_num) (by omega)

/-- Numbers are compared as the fractions that they stand for. -/
theorem compare_magnitude (canonical : Canonical m q) (canonical' : Canonical m' q') :
    (magnitude .positive m q).compare (magnitude .positive m' q') =
    some (compare (m * 2 ^ q : ℚ) (m' * 2 ^ q')) := by
  have size := two_zpow_pos q
  have size' := two_zpow_pos q'
  rcases Nat.eq_zero_or_pos m with rfl | pos <;> rcases Nat.eq_zero_or_pos m' with rfl | pos'
  · rw [Nat.cast_zero, zero_mul, zero_mul, compare_eq_iff_eq.2 rfl]
    rfl
  · have less : ((0 : ℕ) * 2 ^ q : ℚ) < m' * 2 ^ q' := by
      rw [Nat.cast_zero, zero_mul]
      positivity
    rw [compare_lt_iff_lt.2 less, magnitude, magnitude, dif_neg (Nat.lt_irrefl 0), dif_pos pos']
    rfl
  · have less : ((0 : ℕ) * 2 ^ q' : ℚ) < m * 2 ^ q := by
      rw [Nat.cast_zero, zero_mul]
      positivity
    rw [compare_gt_iff_gt.2 less, magnitude, magnitude, dif_pos pos, dif_neg (Nat.lt_irrefl 0)]
    rfl
  · rw [magnitude, magnitude, dif_pos pos, dif_pos pos']
    show some ((compare q q').then (compare m m')) = _
    congr 1
    -- The exponents decide, unless they are the same; then the mantissas do.
    rcases lt_trichotomy q q' with less | rfl | more
    · rw [compare_lt_iff_lt.2 less,
        compare_lt_iff_lt.2 (lt_of_exponent_lt canonical canonical' less)]
      rfl
    · have scaled : StrictMono fun k : ℕ => (k * 2 ^ q : ℚ) := fun a b less =>
        mul_lt_mul_of_pos_right (by exact_mod_cast less) size
      rw [compare_eq_iff_eq.2 rfl, ← cmp_eq_compare, ← cmp_eq_compare]
      exact (scaled.cmp_map_eq m m').symm
    · rw [compare_gt_iff_gt.2 more,
        compare_gt_iff_gt.2 (lt_of_exponent_lt canonical' canonical more)]
      rfl

/-! ## Natural numbers -/

theorem unpack_ofNat (h : n < 2 ^ 53) :
    ∃ m q, Canonical m q ∧ (n : ℚ) = m * 2 ^ q ∧
    (Float.ofNat n).toModel.unpack = magnitude .positive m q := by
  obtain ⟨m, q, canonical, exact, small⟩ := exists_canonical h
  refine ⟨m, q, canonical, exact, ?_⟩
  rw [ofNat_of_roundsTo canonical (exact ▸ roundsTo_self m q)]
  exact unpack_pack _ canonical (by omega)

theorem compare_ofNat (hn : n < 2 ^ 53) (hk : k < 2 ^ 53) :
    (Float.ofNat n).toModel.unpack.compare (Float.ofNat k).toModel.unpack = some (compare n k) := by
  obtain ⟨m, q, canonical, same, stored⟩ := unpack_ofNat hn
  obtain ⟨m', q', canonical', same', stored'⟩ := unpack_ofNat hk
  rw [stored, stored', compare_magnitude canonical canonical', ← same, ← same', ← cmp_eq_compare,
    ← cmp_eq_compare, Nat.strictMono_cast.cmp_map_eq]

/-- Natural numbers are in order as numbers just if they are. -/
theorem ofNat_le_ofNat_iff (hn : n < 2 ^ 53) (hk : k < 2 ^ 53) :
    Float.ofNat n ≤ Float.ofNat k ↔ n ≤ k := by
  rw [le_iff, compare_ofNat hn hk, Option.any_some, Nat.isLE_compare]

theorem ofNat_lt_ofNat_iff (hn : n < 2 ^ 53) (hk : k < 2 ^ 53) :
    Float.ofNat n < Float.ofNat k ↔ n < k := by
  rw [lt_iff, compare_ofNat hn hk, Option.some.injEq, compare_lt_iff_lt]

theorem abs_ofNat (n : ℕ) : (Float.ofNat n).abs = Float.ofNat n := by
  have unsigned := unsigned_float_ofNat n
  have same : (Float.ofNat n).toModel.unpack.abs = (Float.ofNat n).toModel.unpack := by
    cases stored : (Float.ofNat n).toModel.unpack <;> rw [stored] at unsigned <;>
      cases unsigned <;> rfl
  show Float.ofModel (.pack (Float.ofNat n).toModel.unpack.abs) = _
  rw [same, ofModel_pack_unpack]

/-- A natural number other than zero is one or more, or beyond all numbers. -/
theorem ofNat_cases (pos : 0 < n) :
    OneOrMore (Float.ofNat n) ∨ (Float.ofNat n).toModel.unpack = .infinity .positive := by
  obtain ⟨m, q, canonical, rounds⟩ := exists_roundsTo_nat n
  have unit := one_le_of_roundsTo canonical rounds pos
  have some := pos_of_one_le unit
  rw [ofNat_of_roundsTo canonical rounds]
  -- Either the exponent can be stored, or the number has left its range.
  rcases le_or_gt q 971 with top | large
  · refine .inl ⟨.positive, m, q, some, ?_, unit⟩
    show (Float.Model.pack (magnitude .positive m q)).unpack = _
    rw [unpack_pack _ canonical top]
    exact dif_pos some
  · right
    show (Float.Model.pack (magnitude .positive m q)).unpack = _
    rw [pack_of_large _ some large]
    rfl

theorem ofNat_ne_zero (pos : 0 < n) : Float.ofNat n ≠ 0.0 := by
  have zero : (0.0 : Float).toModel.unpack = .zero .positive := (rfl)
  intro same
  rcases ofNat_cases pos with ⟨s, m, q, pos, stored, -⟩ | stored
  · rw [same, zero] at stored
    cases stored
  · rw [same, zero] at stored
    cases stored

/-- A quotient by a natural number is finite just if the dividend is. -/
theorem isFinite_div_ofNat (pos : 0 < n) (x : Float) :
    (x / Float.ofNat n).isFinite = x.isFinite := by
  rcases ofNat_cases pos with more | beyond
  · exact Bool.eq_iff_iff.2 ⟨isFinite_of_div more, fun finite => isFinite_div finite more⟩
  · show (Float.Model.pack (UnpackedFloat.div binary64 x.toModel.unpack
      (Float.ofNat n).toModel.unpack)).unpack.isFinite =
      x.toModel.unpack.isFinite
    rw [beyond]
    -- Divided by infinity a finite number is zero, and every other stays what it is.
    have zero : ∀ s, (Float.Model.pack (.zero s)).unpack.isFinite = true := by
      intro s
      cases s <;> decide
    cases x.toModel.unpack with
    | notANumber => decide
    | infinity s => cases s <;> decide
    | zero s => exact zero _
    | finite s m e pos => exact zero _

end Spreadsheet.Binary64
