import Mathlib
import Spreadsheet.Proofs.Address.ReadBack
import Spreadsheet.Proofs.Number.Nearest
import Spreadsheet.Proofs.Number.Numeral

/-!
# `Proofs/Number/Shortest.lean` — a number is read back from its text

The text of a number has as few digits as identify it. Whichever digits are chosen, they are
chosen inside the interval around the number (`contains_shortest`), and numerals there are rounded
to it, so that every finite number is read back from its text, to the sign of a zero
(`number?_text`).

Which of the candidates is chosen does not matter, since all are in the interval; that the one
with fewest digits is chosen makes the text short, and nothing here depends on it. The rest of the
module follows the digits into characters: with zeros behind them, with a point between them, or
with zeros between the point and them.
-/

set_option autoImplicit false

namespace Spreadsheet.Decimal

open Binary64
open Float.Model (UnpackedFloat)

variable {b : Binary} {n : ℕ}

/-! ## The interval -/

/-- The interval is measured in quarters of the last place. -/
theorem Binary.interval_eq (b : Binary) : ∃ unit : ℕ,
    b.interval.low = (4 * b.m - if b.m = leastNormal ∧ -1074 < b.q then 1 else 2) * unit ∧
      b.interval.value = 4 * b.m * unit ∧ b.interval.high = (4 * b.m + 2) * unit ∧
        (unit * 10 ^ b.interval.exponent : ℚ) = 1 / 4 * 2 ^ b.q := by
  refine ⟨_, rfl, rfl, rfl, ?_⟩
  show _ * (10 : ℚ) ^ min (b.q - 2) 0 = _
  have two : (1 / 4 * 2 ^ b.q : ℚ) = 2 ^ (b.q - 2) := by
    rw [zpow_sub₀ (by norm_num)]
    norm_num
    ring
  rw [two]
  split
  -- A whole number needs no places behind the point; otherwise powers of two below one are
  -- written by powers of ten.
  next whole =>
    obtain ⟨k, hk⟩ := Int.eq_ofNat_of_zero_le whole
    rw [min_eq_right whole, hk, Int.toNat_natCast, zpow_natCast]
    push_cast [Nat.pow_eq]
    ring
  next part =>
    obtain ⟨k, hk⟩ : ∃ k : ℕ, b.q - 2 = -k := ⟨(b.q - 2).natAbs, by omega⟩
    rw [min_eq_left (by omega), hk, neg_neg, Int.toNat_natCast, zpow_neg, zpow_neg, zpow_natCast,
      zpow_natCast]
    have ten : (10 : ℚ) ^ k = 2 ^ k * 5 ^ k := by rw [← mul_pow]; norm_num
    rw [ten]
    push_cast [Nat.pow_eq]
    field_simp

/-- Magnitudes in the interval of a number round to it. -/
theorem roundsTo_of_contains (pos : 0 < b.m) (h : b.interval.contains n = true) :
    RoundsTo (Scaled.value ⟨n, b.interval.exponent⟩) b.m b.q := by
  obtain ⟨unit, low, -, high, quarter⟩ := b.interval_eq
  have size : (0 : ℚ) < 10 ^ b.interval.exponent := by positivity
  have low_end : (b.interval.low * 10 ^ b.interval.exponent : ℚ) =
    (b.m - below b.m b.q) * 2 ^ b.q := by
    have enough : (if b.m = leastNormal ∧ -1074 < b.q then 1 else 2) ≤ 4 * b.m := by split <;> omega
    rw [low, Nat.cast_mul, mul_assoc, quarter, Nat.cast_sub enough]
    unfold below
    split <;> (push_cast; ring)
  have high_end : (b.interval.high * 10 ^ b.interval.exponent : ℚ) = (b.m + 1 / 2) * 2 ^ b.q := by
    rw [high, Nat.cast_mul, mul_assoc, quarter]
    push_cast
    ring
  show RoundsTo (n * 10 ^ b.interval.exponent) _ _
  have closed : b.interval.closed = (b.m % 2 == 0) := rfl
  unfold Interval.contains at h
  rw [closed] at h
  split at h
  -- The ends belong to the interval of an even mantissa, and not to that of an odd one.
  next even =>
    rw [beq_iff_eq] at even
    rw [Bool.and_eq_true, decide_eq_true_iff, decide_eq_true_iff] at h
    refine ⟨?_, ?_, fun odd => by omega⟩
    · rw [← low_end]
      exact mul_le_mul_of_nonneg_right (by exact_mod_cast h.1) size.le
    · rw [← high_end]
      exact mul_le_mul_of_nonneg_right (by exact_mod_cast h.2) size.le
  next odd =>
    rw [Bool.and_eq_true, decide_eq_true_iff, decide_eq_true_iff] at h
    have inside : (b.m - below b.m b.q) * 2 ^ b.q < (n * 10 ^ b.interval.exponent : ℚ) ∧
        (n * 10 ^ b.interval.exponent : ℚ) < (b.m + 1 / 2) * 2 ^ b.q := by
      rw [← low_end, ← high_end]
      exact ⟨mul_lt_mul_of_pos_right (by exact_mod_cast h.1) size,
        mul_lt_mul_of_pos_right (by exact_mod_cast h.2) size⟩
    exact ⟨inside.1.le, inside.2.le, fun _ => inside⟩

/-- The number itself lies in its interval. -/
theorem contains_value (pos : 0 < b.m) : b.interval.contains b.interval.value = true := by
  obtain ⟨unit, low, value, high, quarter⟩ := b.interval_eq
  have some : 0 < unit := by
    rw [Nat.pos_iff_ne_zero]
    rintro rfl
    rw [Nat.cast_zero, zero_mul] at quarter
    exact absurd quarter (by positivity)
  have under : b.interval.low < b.interval.value := by
    rw [low, value]
    exact Nat.mul_lt_mul_of_pos_right (by split <;> omega) some
  have above : b.interval.value < b.interval.high := by
    rw [high, value]
    exact Nat.mul_lt_mul_of_pos_right (by omega) some
  unfold Interval.contains
  split <;> simp [under, above, under.le, above.le]

/-- A candidate lies in the interval. -/
theorem contains_of_candidate? {i : Interval} {grid : ℕ} (h : i.candidate? grid = some n) :
    i.contains n = true := by
  unfold Interval.candidate? at h
  dsimp only at h
  split at h
  next below above =>
    split at h <;> cases h
    · exact below
    · exact above
  next below _ =>
    cases h
    exact below
  next _ above =>
    cases h
    exact above
  next => cases h

/-- The digits that are chosen lie in the interval. -/
theorem contains_shortest {i : Interval} (value : i.contains i.value = true) :
    i.contains i.shortest = true := by
  unfold Interval.shortest
  dsimp only
  cases chosen : (List.range (digitCount i.value)).findSome? fun k =>
    i.candidate? (Nat.pow 10 (digitCount i.value - 1 - k)) with
  | none => exact value
  | some n =>
    obtain ⟨k, -, candidate⟩ := List.exists_of_findSome?_eq_some chosen
    exact contains_of_candidate? candidate

/-! ## Digits -/

/-- Zeros at the end are a power of ten. -/
theorem ofDigits_append_zeros (s : List Char) (k : ℕ) :
    ofDigits (s ++ List.replicate k '0') = 10 ^ k * ofDigits s :=
  (Nat.ofDigitChars_append 0).trans Nat.ofDigitChars_replicate_zero

/-- Zeros in front say nothing. -/
theorem ofDigits_zeros_append (s : List Char) (k : ℕ) :
    ofDigits (List.replicate k '0' ++ s) = ofDigits s := by
  refine (Nat.ofDigitChars_append 0).trans ?_
  rw [Nat.ofDigitChars_replicate_zero]
  rfl

/-- Dropping zeros at the end keeps a magnitude. -/
theorem Scaled.value_stripped (s : Scaled) : s.stripped.value = s.value := by
  unfold Scaled.stripped
  dsimp only
  split
  next zero => simp [Scaled.value, zero]
  next =>
    generalize hk : ((Nat.toDigits 10 s.digits).reverse.takeWhile (· == '0')).length = k
    -- The digits are those that stay, and the zeros.
    obtain ⟨kept, cut⟩ : ∃ kept, Nat.toDigits 10 s.digits = kept ++ List.replicate k '0' := by
      refine ⟨((Nat.toDigits 10 s.digits).reverse.dropWhile (· == '0')).reverse, ?_⟩
      have zeros : (Nat.toDigits 10 s.digits).reverse.takeWhile (· == '0') = List.replicate k '0' :=
        List.eq_replicate_iff.2 ⟨hk, fun c hc => by simpa using List.mem_takeWhile_imp hc⟩
      rw [← List.reverse_inj, List.reverse_append, List.reverse_reverse,
        List.reverse_replicate, ← zeros, List.takeWhile_append_dropWhile]
    have split : s.digits = 10 ^ k * ofDigits kept := by
      rw [← ofDigits_append_zeros, ← cut, ofDigits_toDigits]
    have size : (10 : ℚ) ^ s.exponent * 10 ^ k = 10 ^ (s.exponent + k) := by
      rw [zpow_add₀ (by norm_num), zpow_natCast]
    unfold Scaled.value
    dsimp only
    rw [split, Nat.pow_eq, Nat.mul_div_cancel_left _ (by positivity), ← size]
    push_cast
    ring

/-- The digits that are written lie in the interval of the number. -/
theorem roundsTo_shortest (b : Binary) : RoundsTo b.shortest.value b.m b.q := by
  unfold Binary.shortest
  split
  next zero =>
    have none : (b.m * 2 ^ b.q : ℚ) = Scaled.value ⟨0, 0⟩ := by simp [Scaled.value, zero]
    rw [← none]
    exact roundsTo_self _ _
  next some =>
    have pos := Nat.pos_of_ne_zero some
    rw [Scaled.value_stripped]
    exact roundsTo_of_contains pos (contains_shortest (contains_value pos))

/-! ## Writing by position -/

theorem isDigit_of_mem_zeros {k : ℕ} : ∀ c ∈ List.replicate k '0', c.isDigit = true := by
  intro c hc
  rw [List.eq_of_mem_replicate hc]
  rfl

/-- A magnitude that is written by position is read back. -/
theorem numeral?_positional (s : Scaled) :
    ∃ s', numeral? s.positional = some s' ∧ s'.value = s.value := by
  have digits := @isDigit_of_mem_toDigits s.digits
  have value := ofDigits_toDigits s.digits
  have some : Nat.toDigits 10 s.digits ≠ [] := Nat.toDigits_ne_nil
  unfold Scaled.positional Scaled.value
  dsimp only
  generalize Nat.toDigits 10 s.digits = written at *
  split
  next whole =>
    obtain ⟨k, hk⟩ := Int.eq_ofNat_of_zero_le whole
    split
    next zero => exact ⟨⟨0, 0⟩, by decide, by simp [zero]⟩
    next =>
      refine ⟨_, numeral?_digits (List.forall_mem_append.2 ⟨digits, isDigit_of_mem_zeros⟩)
        (by simp [some]), ?_⟩
      dsimp only
      rw [ofDigits_append_zeros, value, hk, Int.toNat_natCast, zpow_natCast, zpow_zero]
      push_cast
      ring
  next part =>
    obtain ⟨k, hk⟩ : ∃ k : ℕ, s.exponent = -k := ⟨s.exponent.natAbs, by omega⟩
    rw [hk, neg_neg, Int.toNat_natCast]
    split
    -- The point stands among the digits, or zeros are filled in between it and them.
    next inside =>
      refine ⟨_, numeral?_point (fun c hc => digits c (List.mem_of_mem_take hc))
        (fun c hc => digits c (List.mem_of_mem_drop hc)) (List.ne_nil_of_length_pos ?_), ?_⟩
      · rw [List.length_take]
        omega
      · have places : written.length - (written.length - k) = k := by omega
        dsimp only
        rw [List.take_append_drop, value, List.length_drop, places]
    next outside =>
      have places : k - written.length + written.length = k := by omega
      have shape : ['0', '.'] ++ List.replicate (k - written.length) '0' ++ written =
          ['0'] ++ '.' :: (List.replicate (k - written.length) '0' ++ written) := rfl
      have zeros : ['0'] ++ List.replicate (k - written.length) '0' =
        List.replicate (k - written.length + 1) '0' := rfl
      rw [shape]
      refine ⟨_, numeral?_point (by simp) (List.forall_mem_append.2 ⟨isDigit_of_mem_zeros, digits⟩)
        (by simp), ?_⟩
      dsimp only
      rw [List.length_append, List.length_replicate, places, ← List.append_assoc, zeros,
        ofDigits_zeros_append, value]

/-- A magnitude is written with digits and a point. -/
theorem plain_positional (s : Scaled) : ∀ c ∈ s.positional, c.isDigit = true ∨ c = '.' := by
  have digits : ∀ {z : List Char}, (∀ c ∈ z, c ∈ Nat.toDigits 10 s.digits ∨ c = '0' ∨ c = '.') →
      ∀ c ∈ z, c.isDigit = true ∨ c = '.' := by
    intro z h c hc
    rcases h c hc with digit | rfl | point
    · exact .inl (isDigit_of_mem_toDigits c digit)
    · exact .inl rfl
    · exact .inr point
  unfold Scaled.positional
  dsimp only
  apply digits
  intro c hc
  split at hc
  · split at hc
    · exact .inr (.inl (List.mem_singleton.1 hc))
    · exact (List.mem_append.1 hc).imp_right fun zero => .inl (List.eq_of_mem_replicate zero)
  · split at hc
    · rcases List.mem_append.1 hc with whole | fraction
      · exact .inl (List.mem_of_mem_take whole)
      · rcases List.mem_cons.1 fraction with rfl | fraction
        · exact .inr (.inr rfl)
        · exact .inl (List.mem_of_mem_drop fraction)
    · simp only [List.mem_append, List.mem_cons, List.not_mem_nil, or_false,
        List.mem_replicate] at hc
      tauto

/-! ## Reading back -/

/-- What spells a numeral has no sign in front. -/
theorem number?_of_numeral? {s : List Char} {magnitude : Scaled}
    (read : numeral? s = some magnitude) :
    number? s = some magnitude.toFloat := by
  unfold number?
  split
  next rest => cases (show numeral? ('-' :: rest) = none from rfl).symm.trans read
  next rest => cases (show numeral? ('+' :: rest) = none from rfl).symm.trans read
  next => rw [unsigned?, read]

/-- A sign in front negates. -/
theorem number?_negative {s : List Char} {magnitude : Scaled} (read : numeral? s = some magnitude) :
    number? ('-' :: s) = some (-magnitude.toFloat) := by
  show (unsigned? s).map Float.neg = _
  rw [unsigned?, read]
  rfl

/-- Every finite number is read back from its text. -/
theorem number?_text {x : Float} (finite : x.isFinite = true) :
    number? (text x).toList = some x := by
  obtain ⟨b, hb⟩ : ∃ b, Binary.ofFloat? x = some b := ⟨_, if_pos finite⟩
  obtain ⟨magnitude, read, value⟩ := numeral?_positional b.shortest
  have nearest := Scaled.signed_toFloat hb (value ▸ roundsTo_shortest b)
  unfold text
  rw [hb]
  dsimp only
  rw [String.toList_ofList, ← nearest]
  cases b.negative with
  | false => exact number?_of_numeral? read
  | true => exact number?_negative read

/-- The text of a finite number is digits, with a point or a sign. -/
theorem plain_text {x : Float} (finite : x.isFinite = true) :
    ∀ c ∈ (text x).toList, c.isDigit = true ∨ c = '.' ∨ c = '-' := by
  obtain ⟨b, hb⟩ : ∃ b, Binary.ofFloat? x = some b := ⟨_, if_pos finite⟩
  unfold text
  rw [hb]
  dsimp only
  rw [String.toList_ofList]
  intro c hc
  rcases List.mem_append.1 hc with sign | magnitude
  · split at sign
    · exact .inr (.inr (List.mem_singleton.1 sign))
    · cases sign
  · exact (plain_positional _ c magnitude).imp_right .inl

end Spreadsheet.Decimal
