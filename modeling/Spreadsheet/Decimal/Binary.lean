/-!
# `Decimal/Binary.lean` — a number as an exact multiple of a power of two

A finite 64-bit number is exactly `± m · 2^q`. Everything this library does with numbers beyond
the four operations — taking whole parts, counting digits, choosing the digits to write — is done
on that triple with integers, so nothing is lost on the way and nothing has to be taken on trust.

Whole parts come in four kinds (towards zero, down, up, and to the nearest with halves away from
zero). As a number the whole part keeps the sign of what it was taken from, so the whole part of
`-0.5` is a negative zero.
-/

set_option autoImplicit false

namespace Spreadsheet.Decimal

/-- The finite number `m · 2^q`, negated if `negative`. -/
structure Binary where
  negative : Bool
  m : Nat
  q : Int
  deriving DecidableEq, Repr

/-- The least significand that is not subnormal, two to the power of 52. -/
def leastNormal : Nat := 0x10000000000000

/-- The exact value of a finite number; infinities and not-a-number have none. -/
def Binary.ofFloat? (x : Float) : Option Binary :=
  if x.isFinite then
    let bits := x.toBits.toNat
    let exponent : Nat := bits / leastNormal % 2048
    let fraction : Nat := bits % leastNormal
    some
      { negative := decide (0x8000000000000000 ≤ bits)
        m := if exponent = 0 then fraction else leastNormal + fraction
        q := if exponent = 0 then -1074 else (exponent : Int) - 1075 }
  else none

/-- The magnitude as a fraction: numerator and denominator. -/
def Binary.ratio (b : Binary) : Nat × Nat := (b.m * Nat.pow 2 b.q.toNat, Nat.pow 2 (-b.q).toNat)

/-- The given sign on a whole magnitude. -/
def Binary.signed (b : Binary) (magnitude : Nat) : Int :=
  if b.negative then -(magnitude : Int) else magnitude

/-- The whole part towards zero. -/
def Binary.truncate (b : Binary) : Int := b.signed (b.ratio.1 / b.ratio.2)

/-- The greatest whole number not above. -/
def Binary.floor (b : Binary) : Int := b.signed b.ratio.1 / (b.ratio.2 : Int)

/-- The least whole number not below. -/
def Binary.ceiling (b : Binary) : Int := -(-b.signed b.ratio.1 / (b.ratio.2 : Int))

/-- The nearest whole number, halves away from zero. -/
def Binary.nearest (b : Binary) : Int := b.signed ((2 * b.ratio.1 + b.ratio.2) / (2 * b.ratio.2))

/-! ## Whole parts of numbers -/

/-- A whole number as a number, a zero with the given sign. -/
def ofWhole (negative : Bool) (n : Int) : Float :=
  if n = 0 then if negative then -0.0 else 0.0 else Float.ofInt n

/-- Takes a whole part of a finite number; infinities and not-a-number stay. -/
def wholePart (part : Binary → Int) (x : Float) : Float :=
  match Binary.ofFloat? x with
  | some b => ofWhole b.negative (part b)
  | none => x

def truncate (x : Float) : Float := wholePart Binary.truncate x

def floor (x : Float) : Float := wholePart Binary.floor x

def ceiling (x : Float) : Float := wholePart Binary.ceiling x

/-- Rounds to a whole number, halves away from zero. -/
def roundHalfAway (x : Float) : Float := wholePart Binary.nearest x

/-- The whole part towards zero, confined to an interval. Infinities go to its ends and
not-a-number to zero. -/
def toIntWithin (lo hi : Int) (x : Float) : Int :=
  match Binary.ofFloat? x with
  | some b => max lo (min hi b.truncate)
  | none => if x < 0.0 then lo else if 0.0 < x then hi else 0

/-- A position or count, as far as 64 bits reach; a negative number counts as none. -/
def toCount (x : Float) : Nat := (toIntWithin 0 0xFFFFFFFFFFFFFFFF x).toNat

/-- A signed 64-bit whole number. -/
def toInt64 (x : Float) : Int := toIntWithin (-0x8000000000000000) 0x7FFFFFFFFFFFFFFF x

end Spreadsheet.Decimal
