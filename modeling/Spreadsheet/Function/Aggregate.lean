import Spreadsheet.Function.Argument

/-!
# `Function/Aggregate.lean` — totals, counts and extremes

The numeric aggregates work on the same numbers (`Argument.numbers`), whatever the arguments they
come from. `COUNT` alone neither fails on errors nor sees them: it counts the entries that would
have been numbers.
-/

set_option autoImplicit false

namespace Spreadsheet.Aggregate

open Argument

/-- The greater of two numbers; not-a-number gives way. -/
def greater (x y : Float) : Float :=
  if x.isNaN then y else if y.isNaN then x else if x < y then y else x

/-- The lesser of two numbers; not-a-number gives way. -/
def lesser (x y : Float) : Float :=
  if x.isNaN then y else if y.isNaN then x else if y < x then y else x

/-- Combines numbers from left to right; zero if there are none. -/
def reduce (f : Float → Float → Float) : List Float → Float
  | [] => 0.0
  | x :: xs => xs.foldl f x

def sumOf (args : List Value) : Value := numberResult (sum <$> numbers args)

def average (args : List Value) : Value := numberResult (numbers args >>= mean)

/-- Whether an entry is one of the values that numeric aggregates take for a number. -/
def isNumeric (entry : Entry) : Bool :=
  match entry.value with
  | .number _ => true
  | .text s => (NumericText.read? s.toList).isSome
  | .bool _ => !entry.inBlock
  | _ => false

def count (args : List Value) : Value := .number (Float.ofNat ((flatten args).countP isNumeric))

/-- Whether an entry is there at all. -/
def isPresent (entry : Entry) : Bool :=
  match entry.value with
  | .blank => false
  | .text s => s != ""
  | _ => true

def countPresent (args : List Value) : Value :=
  .number (Float.ofNat ((flatten args).countP isPresent))

def maximum (args : List Value) : Value := numberResult (reduce greater <$> numbers args)

def minimum (args : List Value) : Value := numberResult (reduce lesser <$> numbers args)

/-- The product of the numbers, zero if there are none. -/
def productOf (args : List Value) : Value :=
  numberResult ((fun xs => if xs.isEmpty then 0.0 else product xs) <$> numbers args)

def functions : List Function :=
  [ .ofArguments "SUM" (.atLeast 0) .aggregate sumOf,
    .ofArguments "AVERAGE" (.atLeast 0) .aggregate average,
    .ofArguments "COUNT" (.atLeast 0) .raw count,
    .ofArguments "COUNTA" (.atLeast 0) .raw countPresent,
    .ofArguments "MAX" (.atLeast 0) .aggregate maximum,
    .ofArguments "MIN" (.atLeast 0) .aggregate minimum,
    .ofArguments "PRODUCT" (.atLeast 0) .aggregate productOf ]

end Spreadsheet.Aggregate
