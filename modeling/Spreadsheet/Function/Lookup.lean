import Spreadsheet.Function.Argument
import Spreadsheet.Text.Glob
import Spreadsheet.Value.Order

/-!
# `Function/Lookup.lean` — finding a place by its key

An exact search goes through the keys one by one and takes the first that is level with the key it
looks for, or the first text that matches if that is a text with wildcards. An approximate search
trusts the keys to be sorted and halves the stretch in which the last suitable key must lie; what
it finds among keys that are not sorted is settled by where it happens to look.

Texts with wildcards need an engine for regular expressions, so the functions that search exactly
are given one.
-/

set_option autoImplicit false

namespace Spreadsheet.Lookup

open Argument

variable (engine : Regex.Engine)

/-! ## Searching -/

/-- Whether the entry at a place satisfies a condition. -/
def holdsAt {α : Type} (p : α → Bool) (xs : List α) (i : Nat) : Bool := xs[i]?.any p

/-- Halves the stretch of `size` places from `base` on: as long as it has more than one, its upper
half is kept if the condition holds at the middle, and dropped otherwise. The last place counts
as within if the condition holds there. -/
def boundaryFrom {α : Type} (p : α → Bool) (xs : List α) (base size : Nat) : Nat :=
  if 1 < size then
    let middle := base + size / 2
    boundaryFrom p xs (if holdsAt p xs middle then middle else base) (size - size / 2)
  else if holdsAt p xs base then base + 1 else base
termination_by size
decreasing_by omega

/-- How many places come before the boundary, if the condition holds up to one and not beyond. -/
def boundary {α : Type} (p : α → Bool) (xs : List α) : Nat := boundaryFrom p xs 0 xs.length

/-- The place before the boundary. -/
def lastBefore (boundary : Nat) : Option Nat := if boundary = 0 then none else some (boundary - 1)

/-- The last place whose key does not come after the one looked for, the keys ascending. -/
def ascending? (key : Value) (keys : List Value) : Option Nat :=
  lastBefore (boundary (fun v => v.compare key != .gt) keys)

/-- The last place whose key does not come before the one looked for, the keys descending. -/
def descending? (key : Value) (keys : List Value) : Option Nat :=
  lastBefore (boundary (fun v => v.compare key != .lt) keys)

/-- Whether a key is a text that passes a test. -/
def fits (test : String → Bool) : Value → Bool
  | .text s => test s
  | _ => false

/-- The test that a key spells as a pattern, if it is a text with wildcards. -/
def pattern? : Value → Option (String → Bool)
  | .text s => Text.Glob.ofText? engine s
  | _ => none

/-- The first place whose key is the one looked for. -/
def firstMatch? (key : Value) (keys : List Value) : Option Nat :=
  match pattern? engine key with
  | some test => keys.findIdx? (fits test)
  | none => keys.findIdx? fun v => v.isLevel key

/-! ## Functions -/

/-- A key to look for: one value, and no error. -/
def keyOf (v : Value) : Except ErrorCode Value :=
  match v.unwrap with
  | .error e => .error e
  | key => .ok key

/-- A position counted from one, or zero where that stands for a whole row or column. -/
def position (zeroAllowed : Bool) (v : Value) : Except ErrorCode Nat := do
  let x := Decimal.truncate (← v.toNumber)
  if x < 0.0 || (x == 0.0 && !zeroAllowed) then .error .typeMismatch
  else return Decimal.toCount x

/-- Which way a table is searched. -/
inductive Orientation where
  /-- The keys are in the first column, and what belongs to a key is in its row. -/
  | vertical
  /-- The keys are in the first row, and what belongs to a key is in its column. -/
  | horizontal
  deriving DecidableEq, Repr

/-- The keys of a table. One without a first column or row has none. -/
def Orientation.keys (table : Block Value) : Orientation → List Value
  | .vertical => (table.column? 0).getD []
  | .horizontal => (table.row? 0).getD []

/-- How many entries belong to a key, the key itself among them. -/
def Orientation.width (table : Block Value) : Orientation → Nat
  | .vertical => table.columns
  | .horizontal => table.rows

/-- The entry at an offset among those that belong to a key. -/
def Orientation.entry? (table : Block Value) (hit offset : Nat) : Orientation → Option Value
  | .vertical => table.get? hit offset
  | .horizontal => table.get? offset hit

/-- Looks a key up among the keys of a table and takes the entry at an offset, counted from one. -/
def lookUp (orientation : Orientation) (key : Value) (table : Block Value) (offset : Nat)
    (approximate : Bool) : Except ErrorCode Value :=
  let keys := orientation.keys table
  if orientation.width table < offset then .error .badReference
  else
    match if approximate then ascending? key keys else firstMatch? engine key keys with
    | none => .error .notAvailable
    | some hit =>
      match orientation.entry? table hit (offset - 1) with
      | some v => .ok v
      | none => .error .badReference

/-- `VLOOKUP` and `HLOOKUP`. -/
def inTable (orientation : Orientation) : List Value → Except ErrorCode Value
  | key :: table :: offset :: flag => do
    let key ← keyOf key
    let table ← block table
    let offset ← position false offset
    let approximate ← match flag with
      | [] => pure true
      | flag :: _ => flag.toBool
    lookUp engine orientation key table offset approximate
  | _ => .error .typeMismatch

/-- The entry of a single row or column at a position; the whole at position zero. -/
def inVector (table : Block Value) (p : Nat) : Except ErrorCode Value :=
  if p = 0 then .ok (.block table)
  else
    match table.cells[p - 1]? with
    | some v => .ok v
    | none => .error .badReference

/-- The entry of a table at a row and column; a whole row or column where the other is zero. -/
def inBlock (table : Block Value) (row column : Nat) : Except ErrorCode Value :=
  if h : row ≤ table.rows ∧ column ≤ table.columns then
    if hr : row = 0 then
      if hc : column = 0 then .ok (.block table)
      else .ok (.block (table.columnBlock ⟨column - 1, by omega⟩))
    else
      if hc : column = 0 then .ok (.block (table.rowBlock ⟨row - 1, by omega⟩))
      else .ok (table.entry ⟨row - 1, by omega⟩ ⟨column - 1, by omega⟩)
  else .error .badReference

/-- `INDEX`: a single position counts along a table of one row or one column. -/
def index : List Value → Except ErrorCode Value
  | [table, place] => do
    let table ← block table
    let p ← position true place
    if table.isVector then inVector table p else inBlock table p 0
  | [table, row, column] => do
    let table ← block table
    let row ← position true row
    inBlock table row (← position true column)
  | _ => .error .typeMismatch

/-- `MATCH`: the position of a key in a row or column, sorted ascending unless said otherwise. -/
def positionOf : List Value → Except ErrorCode Value
  | key :: keys :: kind => do
    let key ← keyOf key
    let keys ← block keys
    let some keys := keys.vector? | .error .notAvailable
    let kind ← match kind with
      | [] => pure 1.0
      | kind :: _ => kind.toNumber
    let found :=
      if kind == 0.0 then firstMatch? engine key keys
      else if 0.0 < kind then ascending? key keys
      else descending? key keys
    match found with
    | some i => return .number (Float.ofNat (i + 1))
    | none => .error .notAvailable
  | _ => .error .typeMismatch

def functions : List Function :=
  [ .ofArguments "VLOOKUP" (.between 3 4) .lookup (Value.ofExcept ∘ inTable engine .vertical),
    .ofArguments "HLOOKUP" (.between 3 4) .lookup (Value.ofExcept ∘ inTable engine .horizontal),
    .ofArguments "INDEX" (.between 2 3) .lookup (Value.ofExcept ∘ index),
    .ofArguments "MATCH" (.between 2 3) .lookup (Value.ofExcept ∘ positionOf engine) ]

end Spreadsheet.Lookup
