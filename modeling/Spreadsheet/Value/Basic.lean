import Spreadsheet.Value.Block

/-!
# `Value/Basic.lean` — what formulas compute

A cell holds a *scalar*: a number, a text, a truth value, or nothing. A formula computes a *value*,
which may also be an error or a block of values read from a range. Errors are ordinary values: they
travel through expressions until a function catches them or a cell shows them.

Two things look alike and differ. `Value.same` tells whether recalculation has changed a cell; it
compares numbers as numbers, so the two zeros are the same and not-a-number is never the same as
itself. Whether a formula finds two values *equal* is another matter (`Value/Order.lean`).
-/

set_option autoImplicit false

namespace Spreadsheet

/-- Why a formula has no ordinary value. -/
inductive ErrorCode where
  | divideByZero
  | unknownName
  | badReference
  | cycle
  | typeMismatch
  | notAvailable
  deriving DecidableEq, Repr

/-- How an error is shown in a cell. -/
def ErrorCode.code : ErrorCode → String
  | .divideByZero => "#DIV/0!"
  | .unknownName => "#NAME?"
  | .badReference => "#REF!"
  | .cycle => "#CYCLE!"
  | .typeMismatch => "#VALUE!"
  | .notAvailable => "#N/A"

/-- What a cell can hold. -/
inductive Scalar where
  | number (x : Float)
  | text (s : String)
  | bool (b : Bool)
  | blank
  deriving Repr

/-- What a formula can compute. -/
inductive Value where
  | scalar (s : Scalar)
  | error (e : ErrorCode)
  | block (b : Block Value)

namespace Value

@[match_pattern] abbrev number (x : Float) : Value := .scalar (.number x)
@[match_pattern] abbrev text (s : String) : Value := .scalar (.text s)
@[match_pattern] abbrev bool (b : Bool) : Value := .scalar (.bool b)
@[match_pattern] abbrev blank : Value := .scalar .blank

/-- A computed number. What is not finite is an error instead. -/
def ofFloat (x : Float) : Value := if x.isFinite then .number x else .error .typeMismatch

/-- The outcome of a computation that may end in an error. -/
def ofExcept : Except ErrorCode Value → Value
  | .ok v => v
  | .error e => .error e

def isError : Value → Bool
  | .error _ => true
  | _ => false

/-- The error that a value is, if it is one. -/
def error? : Value → Option ErrorCode
  | .error e => some e
  | _ => none

/-- The entry of a block that has just one. Other blocks cannot stand in for one value. -/
def unwrap : Value → Value
  | .block ⟨rows, columns, entry⟩ =>
    if h : rows = 1 ∧ columns = 1 then entry ⟨0, by omega⟩ ⟨0, by omega⟩ else .error .typeMismatch
  | v => v

/-- The scalar that a value comes down to, however often it is wrapped in blocks of one entry. -/
def scalar? : Value → Except ErrorCode Scalar
  | .scalar s => .ok s
  | .error e => .error e
  | .block ⟨rows, columns, entry⟩ =>
    if h : rows = 1 ∧ columns = 1 then
      (entry ⟨0, by omega⟩ ⟨0, by omega⟩).scalar?
    else .error .typeMismatch
termination_by structural v => v

end Value

/-- Whether two scalars are the same content. -/
def Scalar.same : Scalar → Scalar → Bool
  | .number x, .number y => x == y
  | .text x, .text y => x == y
  | .bool x, .bool y => x == y
  | .blank, .blank => true
  | _, _ => false

/-- Whether two values are the same content. -/
def Value.same : Value → Value → Bool
  | .scalar x, .scalar y => x.same y
  | .error x, .error y => x == y
  | .block ⟨rows, columns, entry⟩, .block ⟨rows', columns', entry'⟩ =>
    if h : rows = rows' ∧ columns = columns' then
      (List.finRange rows).all fun i => (List.finRange columns).all fun j =>
        (entry i j).same (entry' (i.cast h.1) (j.cast h.2))
    else false
  | _, _ => false
termination_by structural v => v

end Spreadsheet
