import Spreadsheet.Address.Reader

/-!
# `Address/Range.lean` — rectangles of cells

A range is written by two opposite corners. Built from any two corners it is brought to the form
in which the first is the top left and the second the bottom right one, each dollar sign staying
with the coordinate it was written at, and the sheet is named at the first corner only.

The structure itself holds any two addresses: a formula that was put together by hand may hold a
range that was never normalized, and it is still written out as it stands.
-/

set_option autoImplicit false

namespace Spreadsheet

/-- A rectangular block of cells, by two corners. -/
structure Range where
  first : Address
  last : Address
  deriving DecidableEq, Repr

namespace Range

/-- The first corner is top left, and only it names a sheet. -/
def Normalized (r : Range) : Prop :=
  r.first.row ≤ r.last.row ∧ r.first.column ≤ r.last.column ∧ r.last.sheet = none

/-- The range with these corners, unless they name two different sheets. -/
def ofCorners? (a b : Address) : Option Range :=
  let sheet? : Option (Option String) :=
    match a.sheet, b.sheet with
    | some x, some y => if Text.sameName x y then some (some x) else none
    | some x, none => some (some x)
    | none, y => some y
  sheet?.map fun sheet =>
    let (left, right) := if a.column ≤ b.column then (a, b) else (b, a)
    let (top, bottom) := if a.row ≤ b.row then (a, b) else (b, a)
    { first := ⟨sheet, top.row, left.column, top.rowFixed, left.columnFixed⟩
      last := ⟨none, bottom.row, right.column, bottom.rowFixed, right.columnFixed⟩ }

/-- Splits a text at its first colon outside apostrophes. -/
def splitColon (quoted : Bool) : List Char → Option (List Char × List Char)
  | [] => none
  | c :: rest =>
    if c = ':' ∧ !quoted then some ([], rest)
    else (splitColon (if c = '\'' then !quoted else quoted) rest).map fun (a, b) => (c :: a, b)

/-- The range that a text spells: two corners with a colon between, or one cell. -/
def ofText? (s : String) : Option Range :=
  let s := Text.trim s.toList
  match splitColon false s with
  | some (a, b) =>
    match Address.ofChars? a, Address.ofChars? b with
    | some a, some b => ofCorners? a b
    | _, _ => none
  | none =>
    match Address.ofChars? s with
    | some a => ofCorners? a a
    | none => none

/-- The text of a range. -/
def text (r : Range) : String := String.ofList (r.first.write ++ [':'] ++ r.last.write)

def sheet (r : Range) : Option String := r.first.sheet

def rows (r : Range) : Nat := r.last.row - r.first.row + 1

def columns (r : Range) : Nat := r.last.column - r.first.column + 1

/-- The first count of cells that does not fit in 64 bits. -/
def countLimit : Nat := 0x10000000000000000

/-- The number of cells, if it fits in 64 bits. -/
def size? (r : Range) : Option Nat :=
  if r.rows * r.columns < countLimit then some (r.rows * r.columns) else none

/-- The position `row` rows below and `column` columns to the right of the first corner. -/
def offset (r : Range) (row column : Nat) : Position := ⟨r.first.row + row, r.first.column + column⟩

/-- Every position, row by row. -/
def positions (r : Range) : List Position :=
  (List.range r.rows).flatMap fun i => (List.range r.columns).map fun j => r.offset i j

/-- The plain address of a position on the range's sheet. -/
def addressAt (r : Range) (p : Position) : Address := Address.ofPosition r.sheet p

end Range

end Spreadsheet
