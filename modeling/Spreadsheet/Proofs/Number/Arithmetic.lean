import Mathlib
import Spreadsheet.Function.Arithmetic

/-!
# `Proofs/Number/Arithmetic.lean` — arithmetic does not tell the zeros apart

Recalculation takes a number for unchanged if it is *equal* to the one before, and equality of
numbers is not identity: the two zeros are equal, and not-a-number is not equal to itself. Those
are the only differences (`Float.beq_iff_ne_nan_and_eq`), so the operators of formulas take equal
numbers to equal numbers, or to the same failure, as soon as they do so for the zeros: a sum, a
difference or a product with one of them is, but for the sign of a zero, what it is with the
other, and a quotient by either is refused before it is formed.

What the exponentiation of the platform does is not described in the logic. What is relied on is
said by `Power.Respectful`, and asked for where a formula raises to powers.
-/

set_option autoImplicit false

namespace Spreadsheet
namespace Binary64

open Float.Model (UnpackedFloat)
open Float.Model.Format (binary64)

/-- Whether a number is one of the two zeros. -/
def IsZero (x : Float) : Prop := x = 0.0 ∨ x = -0.0

/-- The same, or both zeros. -/
def Near (x y : Float) : Prop := x = y ∨ (IsZero x ∧ IsZero y)

theorem Near.refl (x : Float) : Near x x := .inl rfl

theorem Near.symm {x y : Float} (h : Near x y) : Near y x := h.imp Eq.symm And.symm

/-- `Near`, of what numbers stand for. -/
def Like (u v : UnpackedFloat) : Prop := u = v ∨ ∃ s t, u = .zero s ∧ v = .zero t

theorem near_of_beq {x y : Float} (h : (x == y) = true) : Near x y := by
  obtain ⟨-, -, rfl | ⟨rfl, rfl⟩ | ⟨rfl, rfl⟩⟩ := Float.beq_iff_ne_nan_and_eq.1 h
  · exact .inl rfl
  · exact .inr ⟨.inl rfl, .inr rfl⟩
  · exact .inr ⟨.inr rfl, .inl rfl⟩

theorem IsZero.unpack {x : Float} (h : IsZero x) : ∃ s, x.toModel.unpack = .zero s := by
  rcases h with rfl | rfl
  · exact ⟨.positive, rfl⟩
  · exact ⟨.negative, rfl⟩

theorem Near.unpack {x y : Float} (h : Near x y) : Like x.toModel.unpack y.toModel.unpack := by
  rcases h with rfl | ⟨hx, hy⟩
  · exact .inl rfl
  · obtain ⟨s, hs⟩ := hx.unpack
    obtain ⟨t, ht⟩ := hy.unpack
    exact .inr ⟨s, t, hs, ht⟩

theorem isZero_pack (s : UnpackedFloat.Sign) : IsZero (.ofModel (.pack (.zero s))) := by
  cases s with
  | positive => exact .inl rfl
  | negative => exact .inr rfl

theorem Like.pack {u v : UnpackedFloat} (h : Like u v) :
    Near (.ofModel (.pack u)) (.ofModel (.pack v)) := by
  rcases h with rfl | ⟨s, t, rfl, rfl⟩
  · exact .inl rfl
  · exact .inr ⟨isZero_pack s, isZero_pack t⟩

/-! ## What numbers stand for -/

/-- The sum of two zeros is a zero. -/
theorem zero_add_zero (s t : UnpackedFloat.Sign) :
    ∃ r, UnpackedFloat.add binary64 (.zero s) (.zero t) = .zero r := by
  cases s <;> cases t <;> exact ⟨_, rfl⟩

/-- The difference of two zeros is a zero. -/
theorem zero_sub_zero (s t : UnpackedFloat.Sign) :
    ∃ r, UnpackedFloat.sub binary64 (.zero s) (.zero t) = .zero r := by
  cases s <;> cases t <;> exact ⟨_, rfl⟩

theorem like_of_zeros {u v : UnpackedFloat} (hu : ∃ s, u = .zero s) (hv : ∃ t, v = .zero t) :
    Like u v := by
  obtain ⟨s, rfl⟩ := hu
  obtain ⟨t, rfl⟩ := hv
  exact .inr ⟨s, t, rfl, rfl⟩

section
variable {u u' v v' : UnpackedFloat}

theorem Like.add (hu : Like u u') (hv : Like v v') :
    Like (UnpackedFloat.add binary64 u v) (UnpackedFloat.add binary64 u' v') := by
  rcases hu with rfl | ⟨s, s', rfl, rfl⟩ <;> rcases hv with rfl | ⟨t, t', rfl, rfl⟩
  · exact .inl rfl
  · cases u with
    | zero s => exact like_of_zeros (zero_add_zero s t) (zero_add_zero s t')
    | _ => exact .inl rfl
  · cases v with
    | zero t => exact like_of_zeros (zero_add_zero s t) (zero_add_zero s' t)
    | _ => exact .inl rfl
  · exact like_of_zeros (zero_add_zero s t) (zero_add_zero s' t')

theorem Like.sub (hu : Like u u') (hv : Like v v') :
    Like (UnpackedFloat.sub binary64 u v) (UnpackedFloat.sub binary64 u' v') := by
  rcases hu with rfl | ⟨s, s', rfl, rfl⟩ <;> rcases hv with rfl | ⟨t, t', rfl, rfl⟩
  · exact .inl rfl
  · cases u with
    | zero s => exact like_of_zeros (zero_sub_zero s t) (zero_sub_zero s t')
    | _ => exact .inl rfl
  · cases v with
    | zero t => exact like_of_zeros (zero_sub_zero s t) (zero_sub_zero s' t)
    | _ => exact .inl rfl
  · exact like_of_zeros (zero_sub_zero s t) (zero_sub_zero s' t')

theorem Like.mul (hu : Like u u') (hv : Like v v') :
    Like (UnpackedFloat.mul binary64 u v) (UnpackedFloat.mul binary64 u' v') := by
  rcases hu with rfl | ⟨s, s', rfl, rfl⟩ <;> rcases hv with rfl | ⟨t, t', rfl, rfl⟩
  · exact .inl rfl
  · cases u with
    | zero s => exact .inr ⟨_, _, rfl, rfl⟩
    | finite => exact .inr ⟨_, _, rfl, rfl⟩
    | _ => exact .inl rfl
  · cases v with
    | zero t => exact .inr ⟨_, _, rfl, rfl⟩
    | finite => exact .inr ⟨_, _, rfl, rfl⟩
    | _ => exact .inl rfl
  · exact .inr ⟨_, _, rfl, rfl⟩

/-- A quotient of zeros by the same, which must not be a zero itself. -/
theorem Like.div (hu : Like u u') (hv : ∀ t, v ≠ .zero t) :
    Like (UnpackedFloat.div binary64 u v) (UnpackedFloat.div binary64 u' v) := by
  rcases hu with rfl | ⟨s, s', rfl, rfl⟩
  · exact .inl rfl
  · cases v with
    | zero t => exact absurd rfl (hv t)
    | notANumber => exact .inl rfl
    | _ => exact .inr ⟨_, _, rfl, rfl⟩

/-- Zeros stand in the same order to everything. -/
theorem Like.compare (hu : Like u u') (hv : Like v v') : u.compare v = u'.compare v' := by
  have left : ∀ s s' w, UnpackedFloat.compare (.zero s) w = UnpackedFloat.compare (.zero s') w := by
    intro s s' w
    rcases w with t | _ | t | t <;> first | rfl | (cases t <;> rfl)
  have right : ∀ t t' w, UnpackedFloat.compare w (.zero t) =
    UnpackedFloat.compare w (.zero t') := by
    intro t t' w
    rcases w with s | _ | s | s <;> first | rfl | (cases s <;> rfl)
  rcases hu with rfl | ⟨s, s', rfl, rfl⟩ <;> rcases hv with rfl | ⟨t, t', rfl, rfl⟩
  · rfl
  · exact right t t' u
  · exact left s s' v
  · rfl

end

/-! ## Numbers -/

section
variable {x x' y y' : Float}

theorem Near.add (hx : Near x x') (hy : Near y y') : Near (x + y) (x' + y') :=
  (hx.unpack.add hy.unpack).pack

theorem Near.sub (hx : Near x x') (hy : Near y y') : Near (x - y) (x' - y') :=
  (hx.unpack.sub hy.unpack).pack

theorem Near.mul (hx : Near x x') (hy : Near y y') : Near (x * y) (x' * y') :=
  (hx.unpack.mul hy.unpack).pack

theorem lt_iff {x y : Float} : x < y ↔ x.toModel.unpack.compare y.toModel.unpack = some .lt := by
  show decide (x.toModel < y.toModel) = true ↔ _
  rw [decide_eq_true_iff]
  show (x.toModel.unpack.compare y.toModel.unpack == some .lt) = true ↔ _
  simp

theorem Near.lt (hx : Near x x') (hy : Near y y') : x < y ↔ x' < y' := by
  rw [lt_iff, lt_iff, hx.unpack.compare hy.unpack]

theorem Near.beq (hx : Near x x') (hy : Near y y') : (x == y) = (x' == y') := by
  have := hx.unpack.compare hy.unpack
  show (x.toModel.unpack.compare y.toModel.unpack == some .eq) =
    (x'.toModel.unpack.compare y'.toModel.unpack == some .eq)
  rw [this]

theorem Near.isFinite (hx : Near x x') : x.isFinite = x'.isFinite := by
  rcases hx with rfl | ⟨hx, hx'⟩
  · rfl
  · rcases hx with rfl | rfl <;> rcases hx' with rfl | rfl <;> rfl

/-- A number that is no zero is nothing else that is equal to it. -/
theorem Near.eq_of_ne (hx : Near x x') (h : (x == 0.0) = false) : x = x' := by
  rcases hx with rfl | ⟨hx, -⟩
  · rfl
  · rcases hx with rfl | rfl <;> exact absurd h (by decide)

/-- Quotients by what is not zero. -/
theorem Near.div (hx : Near x x') (hy : Near y y') (h : (y == 0.0) = false) :
    Near (x / y) (x' / y') := by
  have same : y = y' := hy.eq_of_ne h
  subst same
  refine (hx.unpack.div fun t ht => ?_).pack
  have zero : (y == 0.0) = true := by
    show (y.toModel.unpack.compare (.zero .positive) == some .eq) = true
    rw [ht]
    rfl
  rw [zero] at h
  cases h

end

/-! ## Numbers that are finite -/

theorem beq_self_of_isFinite {x : Float} (h : x.isFinite = true) : (x == x) = true := by
  rw [Float.beq_self_iff]
  rintro rfl
  exact absurd h (by decide)

/-- Numbers that are the same or both zeros are equal, if they are numbers. -/
theorem Near.beq_of_beq_self {x y : Float} (h : Near x y) (number : (x == x) = true) :
    (x == y) = true :=
  ((Near.refl x).beq h).symm.trans number

theorem Near.beq_of_isFinite {x y : Float} (h : Near x y) (finite : x.isFinite = true) :
    (x == y) = true :=
  h.beq_of_beq_self (beq_self_of_isFinite finite)

/-- Only not-a-number is stored as not-a-number: all other bits have an exponent that is not full,
or no mantissa. -/
theorem pack_ne_packedNaN {u : UnpackedFloat} (h : u ≠ .notANumber) :
    UnpackedFloat.pack binary64 u ≠ UnpackedFloat.packedNaN binary64 := by
  intro nan
  have bits := @UnpackedFloat.isNaNBits_packedNaN binary64
  rw [← nan, UnpackedFloat.isNaNBits, decide_eq_true_iff] at bits
  obtain ⟨exponent, mantissa⟩ := bits
  cases u with
  | notANumber => exact h rfl
  | infinity s => exact mantissa (UnpackedFloat.unpackMantissa_packComponents)
  | zero s =>
    rw [UnpackedFloat.pack, UnpackedFloat.packedZero,
      UnpackedFloat.unpackExponent_packComponents] at exponent
    exact absurd exponent (by decide)
  | finite s m e pos =>
    simp only [UnpackedFloat.pack] at exponent mantissa
    split at exponent
    -- A number that is too large is stored as infinity, with no mantissa.
    case isTrue full =>
      rw [if_pos full] at mantissa
      exact mantissa (UnpackedFloat.unpackMantissa_packComponents)
    case isFalse below =>
      split at exponent
      · rw [UnpackedFloat.unpackExponent_packComponents, ← BitVec.toNat_inj] at exponent
        norm_num [BitVec.toNat_neg] at exponent below
        omega
      · rw [UnpackedFloat.unpackExponent_packComponents] at exponent
        exact absurd exponent (by decide)

theorem ofModel_pack_ne_nan {u : UnpackedFloat} (h : u ≠ .notANumber) :
    Float.ofModel (.pack u) ≠ Float.nan := by
  intro nan
  exact pack_ne_packedNaN h (congrArg (fun x : Float => x.toBits.toBitVec) nan)

/-- A number is not-a-number if that is what it stands for. -/
theorem ne_nan_iff {x : Float} : x ≠ Float.nan ↔ x.toModel.unpack ≠ .notANumber := by
  rw [← Float.toBits_inj.ne, ← UInt64.toBitVec_inj.ne]
  exact (UnpackedFloat.unpack_eq_notANumber_iff_of_valid x.toModel.valid).not.symm

theorem beq_self_neg {x : Float} (h : (x == x) = true) : (-x == -x) = true := by
  rw [Float.beq_self_iff] at h ⊢
  rw [ne_nan_iff] at h
  refine ofModel_pack_ne_nan ?_
  cases hx : x.toModel.unpack <;> simp_all [UnpackedFloat.neg]

theorem beq_neg {x y : Float} (h : (x == y) = true) : (-x == -y) = true := by
  rcases near_of_beq h with rfl | ⟨hx, hy⟩
  · exact beq_self_neg h
  · rcases hx with rfl | rfl <;> rcases hy with rfl | rfl <;> rfl

/-! ## Whole numbers -/

theorem round_ne_nan (s : UnpackedFloat.Sign) (m : Nat) (e : Int)
    (accuracy : UnpackedFloat.Accuracy) :
    UnpackedFloat.roundWithAccuracy binary64 s m e accuracy ≠ .notANumber := by
  unfold UnpackedFloat.roundWithAccuracy
  dsimp only
  split <;> simp

/-- A number that is none does not come from the product of one with a finite number. -/
theorem mul_finite_ne_nan {u : UnpackedFloat} (h : u ≠ .notANumber) (s : UnpackedFloat.Sign)
    (m : Nat) (e : Int) (pos : 0 < m) :
    UnpackedFloat.mul binary64 u (.finite s m e pos) ≠ .notANumber := by
  cases u with
  | notANumber => exact absurd rfl h
  | infinity s => simp [UnpackedFloat.mul]
  | zero s => simp [UnpackedFloat.mul]
  | finite s m e pos => exact round_ne_nan _ _ _ _

theorem finite_div_finite_ne_nan (s s' : UnpackedFloat.Sign) (m m' : Nat) (e e' : Int) (pos : 0 < m)
    (pos' : 0 < m') :
    UnpackedFloat.div binary64 (.finite s m e pos) (.finite s' m' e' pos') ≠ .notANumber := by
  simp only [UnpackedFloat.div]
  exact round_ne_nan _ _ _ _

theorem ofNat_ne_nan (n : Nat) : UnpackedFloat.ofNat binary64 n ≠ .notANumber := by
  unfold UnpackedFloat.ofNat UnpackedFloat.ofInt UnpackedFloat.normalize
  split
  · exact round_ne_nan _ _ _ _
  · simp
  · exact round_ne_nan _ _ _ _

theorem ofScientific_ne_nan (m : Nat) (e : Int) :
    UnpackedFloat.ofScientific binary64 m e ≠ .notANumber := by
  unfold UnpackedFloat.ofScientific
  split
  · simp
  split
  · simp
  split
  · simp
  split
  · exact mul_finite_ne_nan (by simp) _ _ _ _
  · exact finite_div_finite_ne_nan _ _ _ _ _ _ _ _

theorem beq_self_ofNat (n : Nat) : (Float.ofNat n == Float.ofNat n) = true := by
  rw [Float.beq_self_iff]
  show Float.ofScientific n false 0 ≠ Float.nan
  unfold Float.ofScientific
  split
  · have digits : n.toUInt64.toFloat.toModel.unpack ≠ .notANumber :=
      ne_nan_iff.1 (ofModel_pack_ne_nan (ofNat_ne_nan _))
    obtain ⟨m, e, pos, one⟩ : ∃ m e pos, (1.0 : Float).toModel.unpack = .finite .positive m e pos :=
      ⟨_, _, _, rfl⟩
    refine ofModel_pack_ne_nan ?_
    show UnpackedFloat.mul binary64 _ (1.0 : Float).toModel.unpack ≠ _
    rw [one]
    exact mul_finite_ne_nan digits _ _ _ _
  · exact ofModel_pack_ne_nan (ofScientific_ne_nan _ _)

theorem beq_self_ofInt (n : Int) : (Float.ofInt n == Float.ofInt n) = true := by
  cases n with
  | ofNat n => exact beq_self_ofNat n
  | negSucc n => exact beq_self_neg (beq_self_ofNat n.succ)

end Binary64

/-! ## The operations of formulas -/

open Binary64

/-- What is relied on of the platform's exponentiation: where powers of equal numbers are formed,
they are equal, or neither is finite. -/
def Power.Respectful : Prop :=
  ∀ x x' y y' : Float, (x == x') = true → (y == y') = true → (x == 0.0 && y < 0.0) = false →
    (x ^ y == x' ^ y') = true ∨ ((x ^ y).isFinite = false ∧ (x' ^ y').isFinite = false)

variable {x x' y y' : Float}

/-- Outcomes with equal numbers, or with the same failure. -/
def SameOutcome (r r' : Except ErrorCode Float) : Prop :=
  (∃ z z', r = .ok z ∧ r' = .ok z' ∧ Near z z') ∨ ∃ e, r = .error e ∧ r' = .error e

theorem quotient_same (hx : Near x x') (hy : Near y y') :
    SameOutcome (quotient x y) (quotient x' y') := by
  unfold quotient
  have zero : (y == 0.0) = (y' == 0.0) := hy.beq (.inl rfl)
  cases h : y == 0.0 with
  | true =>
    rw [← zero, h]
    exact .inr ⟨.divideByZero, rfl, rfl⟩
  | false =>
    rw [← zero, h]
    exact .inl ⟨x / y, x' / y', rfl, rfl, hx.div hy h⟩

theorem power_same (respectful : Power.Respectful) (hx : (x == x') = true) (hy : (y == y') = true) :
    SameOutcome (power x y) (power x' y') := by
  unfold power
  have zero : (x == 0.0) = (x' == 0.0) := (near_of_beq hx).beq (.inl rfl)
  have negative : (y < 0.0) = (y' < 0.0) := propext ((near_of_beq hy).lt (.inl rfl))
  simp only [← zero, ← negative]
  cases h : x == 0.0 && y < 0.0 with
  | true => exact .inr ⟨.divideByZero, rfl, rfl⟩
  | false =>
    -- Equal powers, or two that leave their range together.
    rcases respectful x x' y y' hx hy h with same | ⟨infinite, infinite'⟩
    · have near := near_of_beq same
      simp only [Bool.false_eq_true, if_false, ← near.isFinite]
      cases (x ^ y).isFinite with
      | true => exact .inl ⟨_, _, rfl, rfl, near⟩
      | false => exact .inr ⟨.typeMismatch, rfl, rfl⟩
    · simp only [infinite, infinite']
      exact .inr ⟨.typeMismatch, rfl, rfl⟩

end Spreadsheet
