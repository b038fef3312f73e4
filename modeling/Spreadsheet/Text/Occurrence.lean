/-!
# `Text/Occurrence.lean` — occurrences of one text in another

Occurrences are counted from the left and never overlap: after a match the search goes on behind
it. Both replacements below walk the same occurrences, one rewriting them all and one rewriting a
single one; neither looks into what it has written.
-/

set_option autoImplicit false

namespace Spreadsheet.Text

/-- Replaces every occurrence of `old`. The empty text occurs nowhere. -/
def replaceAll (old new : List Char) : List Char → List Char
  | [] => []
  | c :: rest =>
    if old ≠ [] ∧ old.isPrefixOf (c :: rest) then
      new ++ replaceAll old new (rest.drop (old.length - 1))
    else c :: replaceAll old new rest
termination_by s => s.length
decreasing_by all_goals simp only [List.length_drop, List.length_cons]; omega

/-- Replaces one occurrence of `old`, the one with `skip` occurrences before it; a text with too
few occurrences stays as it is. -/
def replaceNth (old new : List Char) (skip : Nat) : List Char → List Char
  | [] => []
  | c :: rest =>
    if old ≠ [] ∧ old.isPrefixOf (c :: rest) then
      match skip with
      | 0 => new ++ rest.drop (old.length - 1)
      | skip + 1 => old ++ replaceNth old new skip (rest.drop (old.length - 1))
    else c :: replaceNth old new skip rest
termination_by s => s.length
decreasing_by all_goals simp only [List.length_drop, List.length_cons]; omega

end Spreadsheet.Text
