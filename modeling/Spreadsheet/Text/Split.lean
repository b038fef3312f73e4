/-!
# `Text/Split.lean` — cutting a text at a character

Every occurrence of the separator is a cut, so a text with `n` separators falls into `n + 1`
pieces, some of them possibly empty.
-/

set_option autoImplicit false

namespace Spreadsheet.Text

/-- The pieces of a text between the occurrences of a separator. -/
def pieces (separator : Char) : List Char → List (List Char)
  | [] => [[]]
  | c :: rest =>
    if c = separator then [] :: pieces separator rest
    else match pieces separator rest with
      | piece :: more => (c :: piece) :: more
      | [] => [[c]]

/-- Cuts a text at the first separator, if it holds one. -/
def cut? (separator : Char) : List Char → Option (List Char × List Char)
  | [] => none
  | c :: rest =>
    if c = separator then some ([], rest)
    else (cut? separator rest).map fun (before, after) => (c :: before, after)

end Spreadsheet.Text
