import Spreadsheet.Decimal.Numeral

/-!
# `Decimal/Significant.lean` — fifteen significant digits

Sums of binary fractions carry noise behind their fifteenth digit (`0.1 + 0.2` is not `0.3`). What
is shown, and what is rounded to decimal places, is therefore first brought to fifteen significant
digits: the exact value is rounded to them, ties to the even digit, and the number nearest to the
result stands in for it.
-/

set_option autoImplicit false

namespace Spreadsheet.Decimal

/-- A quotient rounded to the nearest whole number, ties to the even one. -/
def divideHalfEven (n d : Nat) : Nat :=
  let q := n / d
  let r := n % d
  if 2 * r < d then q
  else if d < 2 * r then q + 1
  else q + q % 2

/-- The exact magnitude in decimal digits. -/
def Binary.exact (b : Binary) : Scaled :=
  if 0 ≤ b.q then ⟨b.m * Nat.pow 2 b.q.toNat, 0⟩ else ⟨b.m * Nat.pow 5 (-b.q).toNat, b.q⟩

/-- A magnitude rounded to at most `places` significant digits. -/
def Scaled.significant (places : Nat) (s : Scaled) : Scaled :=
  let excess := digitCount s.digits - places
  ⟨divideHalfEven s.digits (Nat.pow 10 excess), s.exponent + excess⟩

/-- How many digits survive when a number is cleared of noise. -/
def trustedDigits : Nat := 15

/-- The number nearest to the fifteen significant digits of a number. -/
def denoised (x : Float) : Float :=
  match Binary.ofFloat? x with
  | some b =>
    let magnitude := (b.exact.significant trustedDigits).toFloat
    if b.negative then -magnitude else magnitude
  | none => x

end Spreadsheet.Decimal
