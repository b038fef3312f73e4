/-!
# `Text/CharSet.lean` — sets of characters, given by their boundaries

A property of characters splits the code points into stretches that have it and stretches that do
not. A set lists the code points where membership flips, in ascending order, starting from "not a
member"; a character belongs to the set when an odd number of flips lie at or below it. So a list
of boundaries is the whole definition, and each table of this library is one such list.
-/

set_option autoImplicit false

namespace Spreadsheet.Text

/-- A set of characters, as the ascending code points at which membership flips. -/
structure CharSet where
  bounds : List Nat

/-- Membership: an odd number of boundaries lie at or below the character. -/
def CharSet.contains (s : CharSet) (c : Char) : Bool :=
  (s.bounds.takeWhile (· ≤ c.toNat)).length % 2 == 1

end Spreadsheet.Text
