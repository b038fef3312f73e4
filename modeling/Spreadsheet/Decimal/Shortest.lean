import Spreadsheet.Decimal.Binary

/-!
# `Decimal/Shortest.lean` — the fewest digits that identify a number

A number stands for all reals that round to it, an interval around its exact value. A number is
written with the fewest digits of which some arrangement lies in that interval, and among those
with the digits nearest to the exact value; of two equally near the greater magnitude is taken.

The exact value of a binary number has finitely many decimal digits, so value, interval and
candidates can all be brought to one common power of ten, where they are natural numbers:

* `unit` many units of `10^exponent` make a quarter of the last binary place;
* the value is `4m` quarters and the interval goes from `4m - 2` to `4m + 2` quarters — from
  `4m - 1` where `m` is the least of its binade, because below it numbers stand twice as close.

For each count of digits the two candidates are the value's neighbours on the grid of numbers with
that many digits. The finest grid holds the value itself, so the search always ends.
-/

set_option autoImplicit false

namespace Spreadsheet.Decimal

/-- A magnitude `digits · 10^exponent`. -/
structure Scaled where
  digits : Nat
  exponent : Int
  deriving DecidableEq, Repr

/-- How many decimal digits a natural number has; none for zero. -/
def digitCount (n : Nat) : Nat := if n = 0 then 0 else (Nat.toDigits 10 n).length

/-- A magnitude and the interval of reals that round to it, on one power of ten. -/
structure Interval where
  low : Nat
  value : Nat
  high : Nat
  /-- Whether the ends round to the value too. -/
  closed : Bool
  exponent : Int
  deriving DecidableEq, Repr

/-- The interval of a non-zero number. -/
def Binary.interval (b : Binary) : Interval :=
  let quarter := b.q - 2
  let unit := if 0 ≤ quarter then Nat.pow 2 quarter.toNat else Nat.pow 5 (-quarter).toNat
  let leastOfBinade := b.m = leastNormal ∧ -1074 < b.q
  { low := (4 * b.m - if leastOfBinade then 1 else 2) * unit
    value := 4 * b.m * unit
    high := (4 * b.m + 2) * unit
    closed := b.m % 2 == 0
    exponent := min quarter 0 }

/-- Whether a magnitude on the interval's power of ten rounds to the value. -/
def Interval.contains (i : Interval) (n : Nat) : Bool :=
  if i.closed then i.low ≤ n && n ≤ i.high else i.low < n && n < i.high

/-- The better of the value's two neighbours among the multiples of `grid`, if one of them lies in
the interval. -/
def Interval.candidate? (i : Interval) (grid : Nat) : Option Nat :=
  let below := i.value / grid * grid
  let above := below + grid
  match i.contains below, i.contains above with
  | true, true => if 2 * i.value < below + above then some below else some above
  | true, false => some below
  | false, true => some above
  | false, false => none

/-- The first candidate found as the count of digits grows. -/
def Interval.shortest (i : Interval) : Nat :=
  let count := digitCount i.value
  ((List.range count).findSome? fun k => i.candidate? (Nat.pow 10 (count - 1 - k))).getD i.value

/-- The same magnitude without zeros at the end of its digits. -/
def Scaled.stripped (s : Scaled) : Scaled :=
  let zeros := ((Nat.toDigits 10 s.digits).reverse.takeWhile (· == '0')).length
  if s.digits = 0 then ⟨0, 0⟩ else ⟨s.digits / Nat.pow 10 zeros, s.exponent + zeros⟩

/-- The fewest digits that identify the magnitude of a number. -/
def Binary.shortest (b : Binary) : Scaled :=
  if b.m = 0 then ⟨0, 0⟩ else Scaled.stripped ⟨b.interval.shortest, b.interval.exponent⟩

/-! ## Writing -/

/-- A magnitude written out by position, without an exponent: zeros are filled in up to the
decimal point on either side. -/
def Scaled.positional (s : Scaled) : List Char :=
  let digits := Nat.toDigits 10 s.digits
  if 0 ≤ s.exponent then
    if s.digits = 0 then ['0'] else digits ++ List.replicate s.exponent.toNat '0'
  else
    let places := (-s.exponent).toNat
    if places < digits.length then
      digits.take (digits.length - places) ++ '.' :: digits.drop (digits.length - places)
    else ['0', '.'] ++ List.replicate (places - digits.length) '0' ++ digits

/-- A number written with the fewest digits that identify it, by position. A negative zero keeps
its sign. -/
def text (x : Float) : String :=
  match Binary.ofFloat? x with
  | some b => String.ofList ((if b.negative then ['-'] else []) ++ b.shortest.positional)
  | none => if x < 0.0 then "-inf" else if 0.0 < x then "inf" else "NaN"

end Spreadsheet.Decimal
