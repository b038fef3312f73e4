import Mathlib
import Spreadsheet.Proofs.Number.Rounding

/-!
# `Proofs/Number/Stored.lean` — how numbers are stored

A finite number is stored as a sign, an exponent field and 52 bits. A field that is not zero
stands for a bit in front of these, and all other numbers are multiples of the least one. Storing
a number and reading it again gives the same number (`unpack_pack`), and what is read off the bits
of a number is its exact value (`unpack_of_ofFloat?`).

Both directions are needed. Results of an operation are packed, and the next operation unpacks
them; numbers of the sheet are given by their bits, and their value is that of the number which
these are unpacked to. A finite number has one canonical mantissa and exponent, so that equal
values are equal numbers but for the sign of zero (`magnitude_inj`).
-/

set_option autoImplicit false

namespace Spreadsheet.Binary64

open Float.Model (UnpackedFloat)
open Float.Model.Format (binary64)
open Float.Model.UnpackedFloat

variable {m : ℕ} {q : ℤ}

/-! ## Packing -/

/-- A number of 53 bits, of which the first is not stored. -/
theorem unpack_normal (s : UnpackedFloat.Sign) (field : ℕ) (some : 0 < field) (bound : field < 2047)
    (full : 2 ^ 52 ≤ m) (bits : m < 2 ^ 53) (exponent : q = field - 1075) :
    unpack binary64 (packComponents binary64 s (BitVec.ofNat 11 field) (BitVec.ofNat 52 m)) =
      .finite s m q (by omega) := by
  have stored : (BitVec.ofNat 11 field).toNat = field := by
    rw [BitVec.toNat_ofNat, Nat.mod_eq_of_lt (by omega)]
  -- The bit in front is put back before the 52 that are stored.
  have whole : (1#1 ++ BitVec.ofNat 52 m).toNat = m := by
    rw [BitVec.toNat_append, ← Nat.shiftLeft_add_eq_or_of_lt (BitVec.isLt _), BitVec.toNat_ofNat,
      Nat.shiftLeft_eq]
    simp
    omega
  -- The two fields that are reserved: all bits set is infinity, and none set is a short mantissa.
  have finite : BitVec.ofNat 11 field ≠ -1#11 := by
    rw [ne_eq, ← BitVec.toNat_inj, stored]
    simp
    omega
  have normal : BitVec.ofNat 11 field ≠ 0#11 := by
    rw [ne_eq, ← BitVec.toNat_inj, stored]
    simp
    omega
  unfold unpack
  simp only [unpackMantissa_packComponents, unpackExponent_packComponents,
    unpackSign_packComponents, UnpackedFloat.Sign.ofBitVec_toBitVec, stored]
  rw [if_neg finite, if_neg normal]
  congr 1
  rw [show binary64.exponentBias = 1023 from rfl]
  omega

/-- A number of fewer bits, all of them stored. -/
theorem unpack_subnormal (s : UnpackedFloat.Sign) (pos : 0 < m) (bits : m < 2 ^ 52) :
    unpack binary64 (packComponents binary64 s 0#_ (BitVec.ofNat 52 m)) =
    .finite s m (-1074) pos := by
  have stored : (BitVec.ofNat 52 m).toNat = m := by
    rw [BitVec.toNat_ofNat, Nat.mod_eq_of_lt bits]
  have notZero : BitVec.ofNat 52 m ≠ 0#52 := by
    rw [ne_eq, ← BitVec.toNat_inj, stored]
    simp
    omega
  unfold unpack
  simp only [unpackMantissa_packComponents, unpackExponent_packComponents,
    unpackSign_packComponents, UnpackedFloat.Sign.ofBitVec_toBitVec]
  rw [if_neg (by decide), if_pos trivial, dif_neg notZero]
  congr 1

theorem unpack_pack_finite (s : UnpackedFloat.Sign) (canonical : Canonical m q) (pos : 0 < m)
    (top : q ≤ 971) :
    (Float.Model.pack (.finite s m q pos)).unpack = .finite s m q pos := by
  have least := canonical.least
  have bound : ¬ 2 ^ 11 ≤ (q + 1023 + 52).toNat + 1 := by omega
  show unpack binary64 (UnpackedFloat.pack binary64 (.finite s m q pos)) = _
  unfold UnpackedFloat.pack
  dsimp only
  rw [if_neg (by exact bound)]
  -- A full mantissa is stored without its first bit, a short one as it is.
  by_cases full : 2 ^ 52 ≤ m
  · have bits : m.log2 + 1 = binary64.mantissaBits := by
      show _ = 53
      rw [(Nat.log2_eq_iff pos.ne').2 ⟨full, canonical.bits⟩]
    rw [if_pos bits]
    exact unpack_normal s (q + 1023 + 52).toNat (by omega) (by omega) full canonical.bits (by omega)
  · have bits : m.log2 + 1 ≠ binary64.mantissaBits := by
      have := (Nat.log2_lt pos.ne').2 (not_le.1 full)
      show _ ≠ 53
      omega
    obtain rfl := canonical.full.resolve_left full
    rw [if_neg bits]
    exact unpack_subnormal s pos (not_le.1 full)

/-- What a number is stored as is found again. -/
theorem unpack_pack (s : UnpackedFloat.Sign) (canonical : Canonical m q) (top : q ≤ 971) :
    (Float.Model.pack (magnitude s m q)).unpack = magnitude s m q := by
  unfold magnitude
  split
  next pos => exact unpack_pack_finite s canonical pos top
  next => exact unpack_packedZero

/-- Numbers stored alike are the same. -/
theorem magnitude_inj {s s' : UnpackedFloat.Sign} {m' : ℕ} {q' : ℤ} (canonical : Canonical m q)
    (canonical' : Canonical m' q') (same : magnitude s m q = magnitude s' m' q') :
    s = s' ∧ m = m' ∧ q = q' := by
  unfold magnitude at same
  split at same <;> split at same
  · cases same
    exact ⟨rfl, rfl, rfl⟩
  · cases same
  · cases same
  next zero zero' =>
    cases same
    have least := canonical.full.resolve_left (by omega)
    have least' := canonical'.full.resolve_left (by omega)
    exact ⟨rfl, by omega, least.trans least'.symm⟩

/-- The number `m · 2^q` negated. -/
theorem neg_pack (canonical : Canonical m q) (top : q ≤ 971) :
    -Float.ofModel (.pack (magnitude .positive m q)) =
    .ofModel (.pack (magnitude .negative m q)) := by
  show Float.ofModel (.pack (Float.Model.pack _).unpack.neg) = _
  rw [unpack_pack _ canonical top]
  unfold magnitude
  split <;> rfl

/-- What does not fit the exponent field is stored as infinite. -/
theorem pack_of_large (s : UnpackedFloat.Sign) (pos : 0 < m) (large : 971 < q) :
    Float.Model.pack (magnitude s m q) = .pack (.infinity s) := by
  have bound : 2 ^ 11 ≤ (q + 1023 + 52).toNat + 1 := by omega
  have packed : UnpackedFloat.pack binary64 (.finite s m q pos) = packedInfinity binary64 s :=
    if_pos bound
  unfold magnitude
  rw [dif_pos pos]
  simp only [Float.Model.pack, packed]
  rfl

/-! ## The exact value of a number -/

theorem unpackExponent_toNat (v : BitVec binary64.numBits) :
    (unpackExponent v).toNat = v.toNat / 2 ^ 52 % 2 ^ 11 := by
  rw [unpackExponent_def, BitVec.extractLsb'_toNat, Nat.shiftRight_eq_div_pow]

theorem unpackMantissa_toNat (v : BitVec binary64.numBits) :
    (unpackMantissa v).toNat = v.toNat % 2 ^ 52 := by
  rw [unpackMantissa_def, BitVec.extractLsb'_toNat, Nat.shiftRight_zero]

theorem unpackSign_toNat (v : BitVec binary64.numBits) :
    (unpackSign v).toNat = v.toNat / 2 ^ 63 % 2 := by
  rw [unpackSign_def, BitVec.extractLsb'_toNat, Nat.shiftRight_eq_div_pow]
  rfl

/-- The sign of a number. -/
def signOf (negative : Bool) : UnpackedFloat.Sign := if negative then .negative else .positive

theorem ofBitVec_unpackSign (v : BitVec binary64.numBits) :
    UnpackedFloat.Sign.ofBitVec (unpackSign v) =
    signOf (decide (0x8000000000000000 ≤ v.toNat)) := by
  have bound : v.toNat < 2 ^ 64 := v.isLt
  have value := unpackSign_toNat v
  unfold UnpackedFloat.Sign.ofBitVec signOf
  by_cases negative : 0x8000000000000000 ≤ v.toNat
  · rw [decide_eq_true negative, if_pos rfl, if_neg]
    rw [← BitVec.toNat_inj, value]
    simp
    omega
  · rw [decide_eq_false negative, if_neg Bool.false_ne_true, if_pos]
    rw [← BitVec.toNat_inj, value]
    simp
    omega

/-- What a finite number is, by its exponent field and the bits behind it. -/
theorem unpack_of_isFinite (v : BitVec binary64.numBits)
    (finite : (unpack binary64 v).isFinite = true) {s : UnpackedFloat.Sign} {field bits : ℕ}
    (hs : UnpackedFloat.Sign.ofBitVec (unpackSign v) = s) (hf : (unpackExponent v).toNat = field)
    (hb : (unpackMantissa v).toNat = bits) :
    field < 2047 ∧ unpack binary64 v =
      magnitude s (if field = 0 then bits else 2 ^ 52 + bits)
      (if field = 0 then -1074 else field - 1075) := by
  have full : (1#1 ++ unpackMantissa v).toNat = 2 ^ 52 + bits := by
    rw [BitVec.toNat_append, ← Nat.shiftLeft_add_eq_or_of_lt (BitVec.isLt _), hb]
    rfl
  have bound : (unpackExponent v).toNat < 2 ^ 11 := (unpackExponent v).isLt
  have zero_iff : unpackExponent v = 0#_ ↔ field = 0 := by
    rw [← BitVec.toNat_inj, hf]
    rfl
  have none_iff : unpackMantissa v = 0#_ ↔ bits = 0 := by
    rw [← BitVec.toNat_inj, hb]
    rfl
  unfold unpack at finite ⊢
  simp only [hs, hf, hb, full] at finite ⊢
  split at finite
  · split at finite <;> cases finite
  next notFull =>
    rw [if_neg notFull]
    rw [← BitVec.toNat_inj, hf, show (-1#11 : BitVec 11).toNat = 2047 from rfl] at notFull
    refine ⟨by omega, ?_⟩
    unfold magnitude
    -- A field of zero is a short mantissa, which may be nothing at all.
    by_cases zero : field = 0
    · rw [if_pos (zero_iff.2 zero)]
      simp only [zero, if_true]
      by_cases none : bits = 0
      · rw [dif_pos (none_iff.2 none), dif_neg (by omega)]
      · rw [dif_neg (mt none_iff.1 none), dif_pos (Nat.pos_of_ne_zero none)]
        rfl
    · rw [if_neg (mt zero_iff.1 zero)]
      simp only [zero, if_false]
      rw [dif_pos (by positivity)]
      rfl

/-- The exact value of a number is what it is stored as. -/
theorem unpack_of_ofFloat? {x : Float} {b : Decimal.Binary}
    (h : Decimal.Binary.ofFloat? x = some b) :
    Canonical b.m b.q ∧ b.q ≤ 971 ∧ x.toModel.unpack = magnitude (signOf b.negative) b.m b.q := by
  unfold Decimal.Binary.ofFloat? at h
  split at h
  case isFalse => cases h
  case isTrue finite =>
    obtain ⟨least, eq⟩ :=
      unpack_of_isFinite x.toModel.toBits.toBitVec finite (ofBitVec_unpackSign _)
      (unpackExponent_toNat _) (unpackMantissa_toNat _)
    replace least : x.toBits.toNat / Decimal.leastNormal % 2048 < 2047 := least
    have bits : x.toBits.toNat % Decimal.leastNormal < Decimal.leastNormal :=
      Nat.mod_lt _ (by decide)
    have normal : Decimal.leastNormal = 2 ^ 52 := rfl
    obtain rfl := Option.some.inj h
    refine ⟨?_, ?_, eq⟩ <;> dsimp only
    · constructor <;> split <;> omega
    · split <;> omega

theorem ofModel_pack_unpack (x : Float) : Float.ofModel (.pack x.toModel.unpack) = x :=
  Float.ofBits_toBits x

/-- A number is what it is stored as. -/
theorem eq_of_ofFloat? {x : Float} {b : Decimal.Binary} (h : Decimal.Binary.ofFloat? x = some b) :
    x = if b.negative then -.ofModel (.pack (magnitude .positive b.m b.q))
      else .ofModel (.pack (magnitude .positive b.m b.q)) := by
  obtain ⟨canonical, top, eq⟩ := unpack_of_ofFloat? h
  rw [neg_pack canonical top, ← ofModel_pack_unpack x, eq]
  cases b.negative <;> rfl

/-- The fraction of a number is its exact value. -/
theorem ratio_eq (b : Decimal.Binary) : (b.ratio.1 : ℚ) = b.m * 2 ^ b.q * b.ratio.2 := by
  show ((b.m * 2 ^ b.q.toNat : ℕ) : ℚ) = b.m * 2 ^ b.q * (2 ^ (-b.q).toNat : ℕ)
  rcases Int.eq_nat_or_neg b.q with ⟨k, hk | hk⟩ <;> rw [hk]
  · have none : (-(k : ℤ)).toNat = 0 := by omega
    rw [none, Int.toNat_natCast, zpow_natCast]
    push_cast
    ring
  · have none : (-(k : ℤ)).toNat = 0 := by omega
    rw [none, neg_neg, Int.toNat_natCast, zpow_neg, zpow_natCast]
    push_cast
    field_simp

end Spreadsheet.Binary64
