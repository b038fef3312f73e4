import Mathlib
import Spreadsheet.Proofs.Number.Rank

/-!
# `Proofs/Number/Position.lean` — numbers as positions

A position is the whole part of a number, as far as 64 bits reach. A number that is a natural
number is that position (`Exactly.toCount`). Any other number has a natural number for its whole
part, or an infinity or a zero, or it is below zero, however far from zero it is
(`truncate_cases`). Only what is not a number is none of these, and passes every comparison on its
way to position zero.

A position is a number of the sheet, and so it may be anything that a number can be. The cases are
those that the functions distinguish by comparing with zero or with one; they are complete, and
which of them holds is settled by how the number is stored.
-/

set_option autoImplicit false

namespace Spreadsheet.Binary64

open Float.Model (UnpackedFloat)

variable {x : Float} {k m n : ℕ} {q : ℤ}

/-! ## Numbers that are natural numbers -/

/-- A number is a natural number, and nothing is lost by that. -/
def Exactly (x : Float) (k : ℕ) : Prop :=
  ∃ b, Decimal.Binary.ofFloat? x = some b ∧ b.negative = false ∧ b.ratio.1 = k * b.ratio.2

theorem exactly_of_canonical (canonical : Canonical m q) (top : q ≤ 971)
    (exact : (k : ℚ) = m * 2 ^ q) :
    Exactly (Float.ofNat k) k := by
  obtain ⟨b, stored, positive, ratio, -⟩ := ofFloat?_of_exact canonical top exact
  exact ⟨b, stored, positive, ratio⟩

theorem exactly_ofNat (small : k < 2 ^ 53) : Exactly (Float.ofNat k) k := by
  obtain ⟨m, q, canonical, exact, low⟩ := exists_canonical small
  exact exactly_of_canonical canonical (by omega) exact

theorem ratio_pos (b : Decimal.Binary) : 0 < b.ratio.2 := Nat.pow_pos (by norm_num)

theorem Exactly.unpack (h : Exactly x k) :
    ∃ m q, Canonical m q ∧ q ≤ 971 ∧ (k : ℚ) = m * 2 ^ q ∧
    x.toModel.unpack = magnitude .positive m q := by
  obtain ⟨b, stored, positive, ratio⟩ := h
  obtain ⟨canonical, top, unpacked⟩ := unpack_of_ofFloat? stored
  rw [positive] at unpacked
  have nonzero : (b.ratio.2 : ℚ) ≠ 0 := by exact_mod_cast (ratio_pos b).ne'
  have fraction := ratio_eq b
  rw [ratio, Nat.cast_mul] at fraction
  exact ⟨b.m, b.q, canonical, top, mul_right_cancel₀ nonzero fraction, unpacked⟩

/-- What is a natural number is what that is turned into. -/
theorem Exactly.eq_ofNat (h : Exactly x k) : x = Float.ofNat k := by
  obtain ⟨m, q, canonical, -, exact, unpacked⟩ := h.unpack
  rw [ofNat_of_roundsTo canonical (exact ▸ roundsTo_self m q), ← unpacked, ofModel_pack_unpack]

theorem Exactly.truncate (h : Exactly x k) : Decimal.truncate x = x := by
  have whole := h.eq_ofNat
  obtain ⟨b, stored, positive, ratio⟩ := h
  unfold Decimal.truncate Decimal.wholePart
  rw [stored]
  dsimp only
  rw [positive, truncate_ofFloat? positive ratio (ratio_pos b), whole]
  unfold Decimal.ofWhole
  split
  next zero =>
    obtain rfl : k = 0 := by exact_mod_cast zero
    rfl
  next => rfl

theorem Exactly.toCount (h : Exactly x k) : Decimal.toCount x = min 0xFFFFFFFFFFFFFFFF k := by
  obtain ⟨b, stored, positive, ratio⟩ := h
  unfold Decimal.toCount Decimal.toIntWithin
  rw [stored]
  dsimp only
  rw [truncate_ofFloat? positive ratio (ratio_pos b)]
  omega

/-- Natural numbers other than zero are not below one. -/
theorem Exactly.not_lt_one (h : Exactly x k) (pos : 0 < k) : ¬ x < 1.0 := by
  have one : (1.0 : Float) = Float.ofNat 1 := rfl
  obtain ⟨m, q, canonical, -, exact, unpacked⟩ := h.unpack
  obtain ⟨m', q', canonical', exact', unpacked'⟩ := unpack_ofNat (n := 1) (by norm_num)
  rw [one, lt_iff, unpacked, unpacked', compare_magnitude canonical canonical', ← exact, ← exact',
    Option.some.injEq, compare_lt_iff_lt, Nat.cast_lt]
  omega

/-- Turned around, natural numbers other than zero are below zero. -/
theorem Exactly.neg_lt_zero (h : Exactly x k) (pos : 0 < k) : -x < 0.0 := by
  obtain ⟨m, q, canonical, top, exact, unpacked⟩ := h.unpack
  have some : 0 < m := by
    by_contra none
    obtain rfl : m = 0 := by omega
    rw [Nat.cast_zero, zero_mul] at exact
    exact pos.ne' (by exact_mod_cast exact)
  -- Only the sign is turned around, and it alone is looked at.
  have turned : (magnitude .positive m q).neg = magnitude .negative m q := by
    unfold magnitude
    split <;> rfl
  have below : (-x).toModel.unpack = magnitude .negative m q := by
    show (Float.Model.pack x.toModel.unpack.neg).unpack = _
    rw [unpacked, turned, unpack_pack _ canonical top]
  rw [lt_iff, below, magnitude, dif_pos some]
  rfl

/-! ## Whole parts -/

/-- The whole part of a finite number needs no more digits than the number. -/
theorem exactly_wholePart {b : Decimal.Binary} (stored : Decimal.Binary.ofFloat? x = some b) :
    Exactly (Float.ofNat (b.ratio.1 / b.ratio.2)) (b.ratio.1 / b.ratio.2) := by
  obtain ⟨canonical, top, -⟩ := unpack_of_ofFloat? stored
  -- Without places behind the point the number is whole; with some its whole part is smaller than
  -- its mantissa.
  rcases le_total 0 b.q with whole | part
  · have denominator : b.ratio.2 = 1 := by
      show 2 ^ (-b.q).toNat = 1
      rw [show (-b.q).toNat = 0 by omega, pow_zero]
    refine exactly_of_canonical canonical top ?_
    rw [denominator, Nat.div_one, ratio_eq, denominator, Nat.cast_one, mul_one]
  · have numerator : b.ratio.1 = b.m := by
      show b.m * 2 ^ b.q.toNat = b.m
      rw [show b.q.toNat = 0 by omega, pow_zero, mul_one]
    refine exactly_ofNat ((Nat.div_le_self _ _).trans_lt ?_)
    rw [numerator]
    exact canonical.bits

/-- The number beyond all natural numbers. -/
def IsBeyond (x : Float) : Prop := x.toModel.unpack = .infinity .positive

/-- The whole part of a number is below zero, or zero, or one of the numbers from one on. -/
theorem truncate_cases (ordered : x ≠ .nan) :
    Decimal.truncate x < 0.0 ∨ IsZero (Decimal.truncate x) ∨
      (∃ k, 0 < k ∧ Exactly (Decimal.truncate x) k) ∨
      IsBeyond (Decimal.truncate x) := by
  unfold Decimal.truncate Decimal.wholePart
  cases stored : Decimal.Binary.ofFloat? x with
  | none =>
    have infinite : ¬ x.toModel.unpack.isFinite = true := by
      intro finite
      rw [Decimal.Binary.ofFloat?, if_pos (show x.isFinite = true from finite)] at stored
      cases stored
    dsimp only
    cases unpacked : x.toModel.unpack with
    | notANumber => exact absurd unpacked (ne_nan_iff.1 ordered)
    | infinity s =>
      cases s with
      | positive => exact .inr (.inr (.inr unpacked))
      | negative =>
        refine .inl ?_
        rw [lt_iff, unpacked]
        rfl
    | zero s | finite s m q pos =>
      rw [unpacked] at infinite
      exact absurd rfl infinite
  | some b =>
    -- A finite number is cut at the point, and its sign put back.
    have whole := exactly_wholePart stored
    dsimp only
    unfold Decimal.ofWhole Decimal.Binary.truncate Decimal.Binary.signed
    generalize b.ratio.1 / b.ratio.2 = n at whole
    rcases Nat.eq_zero_or_pos n with rfl | pos
    · refine .inr (.inl ?_)
      cases b.negative
      · exact .inl rfl
      · exact .inr rfl
    · cases b.negative with
      | false =>
        rw [if_neg Bool.false_ne_true, if_neg (by omega)]
        exact .inr (.inr (.inl ⟨n, pos, whole⟩))
      | true =>
        obtain ⟨n, rfl⟩ := Nat.exists_eq_add_one.2 pos
        rw [if_pos rfl, if_neg (by omega)]
        exact .inl (whole.neg_lt_zero pos)

theorem lt_one_of_lt_zero (h : x < 0.0) : x < 1.0 := by
  have zero : (0.0 : Float).toModel.unpack = .zero .positive := (rfl)
  rw [lt_iff, zero] at h
  rw [lt_iff]
  cases unpacked : x.toModel.unpack with
  | notANumber | zero s =>
    rw [unpacked] at h
    cases h
  | infinity s | finite s m q pos =>
    rw [unpacked] at h
    cases s with
    | positive => cases h
    | negative => rfl

theorem IsZero.lt_one (h : IsZero x) : x < 1.0 := by
  obtain ⟨s, unpacked⟩ := h.unpack
  rw [lt_iff, unpacked]
  cases s <;> rfl

theorem IsZero.beq_zero (h : IsZero x) : (x == 0.0) = true :=
  (Near.beq (.inr ⟨h, .inl rfl⟩) (.inl rfl)).trans (beq_self_of_isFinite rfl)

theorem IsBeyond.toCount (h : IsBeyond x) : Decimal.toCount x = 0xFFFFFFFFFFFFFFFF := by
  have infinite : ¬ x.isFinite = true := by
    show ¬ x.toModel.unpack.isFinite = true
    rw [h]
    nofun
  have below : ¬ x < 0.0 := by
    rw [lt_iff, h]
    nofun
  have above : 0.0 < x := by
    rw [lt_iff, h]
    rfl
  unfold Decimal.toCount Decimal.toIntWithin
  rw [Decimal.Binary.ofFloat?, if_neg infinite]
  dsimp only
  rw [if_neg below, if_pos above]
  rfl

/-- A number that is not below one stands for a position from one on. -/
theorem toCount_pos (ordered : x ≠ .nan) (above : ¬ Decimal.truncate x < 1.0) :
    0 < Decimal.toCount (Decimal.truncate x) := by
  rcases truncate_cases ordered with below | zero | ⟨k, pos, exact⟩ | beyond
  · exact absurd (lt_one_of_lt_zero below) above
  · exact absurd zero.lt_one above
  · rw [exact.toCount]
    omega
  · rw [beyond.toCount]
    decide

/-- A whole part that is neither below zero nor level with it is not below one either. -/
theorem not_lt_one (ordered : x ≠ .nan) (nonneg : ¬ Decimal.truncate x < 0.0)
    (nonzero : (Decimal.truncate x == 0.0) = false) :
    ¬ Decimal.truncate x < 1.0 := by
  rcases truncate_cases ordered with below | zero | ⟨k, pos, exact⟩ | beyond
  · exact absurd below nonneg
  · rw [zero.beq_zero] at nonzero
    cases nonzero
  · exact exact.not_lt_one pos
  · rw [lt_iff, beyond]
    nofun

end Spreadsheet.Binary64
