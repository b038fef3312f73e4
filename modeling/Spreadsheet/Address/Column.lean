/-!
# `Address/Column.lean` — column letters

Columns are named `A` to `Z`, then `AA` to `ZZ`, and so on: a numeral system in base twenty-six
without a zero, where the digit `A` counts one. Counting columns from zero, the letters of a
column spell its successor.

Any run of letters spells a column, but a column must fit in 64 bits; longer runs spell none.
-/

set_option autoImplicit false

namespace Spreadsheet.Column

/-- Whether a character is one of the Latin letters that columns are written with. -/
def isLetter (c : Char) : Bool := c.isAlpha

/-- The letter that counts `digit + 1`. -/
def letter (digit : Nat) : Char := Char.ofNat ('A'.toNat + digit)

/-- The letters that spell a positive number, none for zero. -/
def spell (n : Nat) : List Char :=
  if n = 0 then [] else spell ((n - 1) / 26) ++ [letter ((n - 1) % 26)]
termination_by n
decreasing_by omega

/-- The letters of a column. -/
def letters (column : Nat) : List Char := spell (column + 1)

/-- What a letter counts as a digit, in either case. -/
def digit (c : Char) : Nat := c.toUpper.toNat - 'A'.toNat + 1

/-- The positive number that letters spell, zero for none. -/
def value (cs : List Char) : Nat := cs.foldl (fun n c => 26 * n + digit c) 0

/-- What fits in 64 bits is below this. -/
def capacity : Nat := 0x10000000000000000

/-- A number, if it fits in 64 bits. -/
def fit? (n : Nat) : Option Nat := if n < capacity then some n else none

/-- The number that is spelled with one more character, if that is a letter and everything
computed on the way fits. -/
def extend? (n : Nat) (c : Char) : Option Nat := do
  guard (isLetter c)
  let shifted ← fit? (26 * n)
  fit? (shifted + digit c)

/-- The column that a text spells, letter by letter. -/
def ofLetters? (cs : List Char) : Option Nat := do
  let n ← cs.foldlM extend? 0
  if n = 0 then none else some (n - 1)

end Spreadsheet.Column
