import Spreadsheet.Decimal.Significant
import Spreadsheet.Function.Argument

/-!
# `Function/Arithmetic.lean` — rounding, powers, remainders and chance

Rounding to decimal places first clears the scaled number of the noise behind its fifteenth digit,
so that what is written `2.675` rounds like the decimal it looks like. Halves go away from zero.

Numbers by chance stand in for those of a generator that nobody can predict. What is documented of
it is the range they come from, and this is followed: a number is a multiple of the fifty-third
power of one half from zero to one, one excluded (`random`), and a whole number lies between its
two bounds, both included (`randomBetween`). Which number is drawn (`draw`) is not documented, and
nothing that is proved depends on it.
-/

set_option autoImplicit false

namespace Spreadsheet

/-- A power. Zero has no negative powers, and a power must be finite. -/
def power (base exponent : Float) : Except ErrorCode Float :=
  if base == 0.0 && exponent < 0.0 then .error .divideByZero
  else
    let result := base ^ exponent
    if result.isFinite then .ok result else .error .typeMismatch

/-- A quotient. Nothing can be divided by zero. -/
def quotient (a b : Float) : Except ErrorCode Float :=
  if b == 0.0 then .error .divideByZero else .ok (a / b)

namespace Arithmetic

open Argument

/-- Rounding goes to at most this many places on either side of the point. -/
def maxPlaces : Int := 15

/-- Rounds to decimal places, to the left of the point if their number is negative. -/
def roundTo (x : Float) (places : Int) : Float :=
  let factor := Float.ofNat (Nat.pow 10 places.natAbs)
  if places < 0 then Decimal.roundHalfAway (x / factor) * factor
  else Decimal.roundHalfAway (Decimal.denoised (x * factor)) / factor

def round : List Value → Except ErrorCode Float
  | [x] => return roundTo (← x.toNumber) 0
  | [x, places] => do
    let x ← x.toNumber
    return roundTo x (Decimal.toIntWithin (-maxPlaces) maxPlaces (← places.toNumber))
  | _ => .error .typeMismatch

def absolute : List Value → Except ErrorCode Float
  | [x] => Float.abs <$> x.toNumber
  | _ => .error .typeMismatch

def powerOf : List Value → Except ErrorCode Float
  | [base, exponent] => do
    let base ← base.toNumber
    power base (← exponent.toNumber)
  | _ => .error .typeMismatch

def squareRoot : List Value → Except ErrorCode Float
  | [x] => do
    let x ← x.toNumber
    if x < 0.0 then .error .typeMismatch else return x.sqrt
  | _ => .error .typeMismatch

/-- The remainder, which has the sign of the divisor. -/
def modulo : List Value → Except ErrorCode Float
  | [a, b] => do
    let a ← a.toNumber
    let b ← b.toNumber
    let q ← quotient a b
    return a - b * Decimal.floor q
  | _ => .error .typeMismatch

/-! ## Chance -/

/-- A number of 64 bits that looks random, from the seed and the count of earlier calls. -/
def draw (c : Circumstances) : Nat :=
  let z := UInt64.ofNat (c.seed + (c.earlier + 1) * 0x9E3779B97F4A7C15)
  let z := (z ^^^ (z >>> 30)) * 0xBF58476D1CE4E5B9
  let z := (z ^^^ (z >>> 27)) * 0x94D049BB133111EB
  (z ^^^ (z >>> 31)).toNat

/-- A number from zero, included, to one, excluded. -/
def random (c : Circumstances) : Float :=
  Float.ofNat (draw c / 0x800) / Float.ofNat 0x20000000000000

/-- A whole number between two bounds, both included. -/
def randomBetween (c : Circumstances) : List Value → Except ErrorCode Float
  | [low, high] => do
    let low := Decimal.ceiling (← low.toNumber)
    let high := Decimal.floor (← high.toNumber)
    if high < low then .error .typeMismatch
    else
      let first := Decimal.toInt64 low
      let last := Decimal.toInt64 high
      return Float.ofInt (first + draw c % (last - first + 1))
  | _ => .error .typeMismatch

def functions : List Function :=
  [ .ofArguments "ROUND" (.between 1 2) .scalar (numberResult ∘ round),
    .ofArguments "ABS" (.exactly 1) .scalar (numberResult ∘ absolute),
    .ofArguments "POWER" (.exactly 2) .scalar (numberResult ∘ powerOf),
    .ofArguments "SQRT" (.exactly 1) .scalar (numberResult ∘ squareRoot),
    .ofArguments "MOD" (.exactly 2) .scalar (numberResult ∘ modulo),
    ⟨"RAND", .exactly 0, .scalar, .volatile, fun c _ => .number (random c)⟩,
    ⟨"RANDBETWEEN", .exactly 2, .scalar, .volatile,
      fun c args => numberResult (randomBetween c args)⟩ ]

end Arithmetic

end Spreadsheet
