import Spreadsheet.Decimal.Significant
import Spreadsheet.Text.Case
import Spreadsheet.Value.Basic
import Spreadsheet.Value.NumericText

/-!
# `Value/Coercion.lean` — one kind of value where another is called for

Every operator and function asks for numbers, texts or truth values and takes what it gets through
one of the three coercions here. A block of one entry stands for that entry, an error stays the
error it is, and an empty cell is zero, the empty text, or false.
-/

set_option autoImplicit false

namespace Spreadsheet

namespace Scalar

/-- A truth value as a number. -/
def ofBool (b : Bool) : Float := if b then 1.0 else 0.0

/-- The number that a scalar stands for. -/
def toNumber? : Scalar → Option Float
  | .number x => some x
  | .bool b => some (ofBool b)
  | .blank => some 0.0
  | .text s => NumericText.read? s.toList

end Scalar

/-- How a number is written in a text: fifteen significant digits at most, no exponent. -/
def numberText (x : Float) : String := if x == 0.0 then "0" else Decimal.text (Decimal.denoised x)

/-- How a truth value is written. -/
def boolText (b : Bool) : String := if b then "TRUE" else "FALSE"

namespace Scalar

/-- The text that a scalar stands for. -/
def toText : Scalar → String
  | .text s => s
  | .number x => numberText x
  | .bool b => boolText b
  | .blank => ""

/-- The truth value that a scalar stands for: a number other than zero is true, and so is a text
other than the empty one, `0` and `FALSE`. -/
def toBool : Scalar → Bool
  | .number x => x != 0.0
  | .bool b => b
  | .blank => false
  | .text s =>
    let s := Text.trimmed s
    !(s == "" || Text.sameName s "FALSE" || s == "0")

end Scalar

namespace Value

def toNumber (v : Value) : Except ErrorCode Float := do
  match (← v.scalar?).toNumber? with
  | some x => .ok x
  | none => .error .typeMismatch

def toText (v : Value) : Except ErrorCode String := Scalar.toText <$> v.scalar?

def toBool (v : Value) : Except ErrorCode Bool := Scalar.toBool <$> v.scalar?

end Value

end Spreadsheet
