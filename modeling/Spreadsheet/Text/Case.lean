import Spreadsheet.Text.CaseContext
import Spreadsheet.Text.CaseTable

/-!
# `Text/Case.lean` — changing and ignoring case

Three notions of "the same but for case" meet in a spreadsheet, and they are not interchangeable.

* Sheet and function names ignore the case of the twenty-six Latin letters only.
* Texts compare by their lower-case forms, and a lower-case form is a form of the whole *text*: a
  capital sigma at the end of a word has a small form of its own, and a capital may become two
  characters.
* Wildcard patterns go character by character, so they compare single characters by their simple
  folding.
-/

set_option autoImplicit false

namespace Spreadsheet.Text

/-! ## Latin letters -/

/-- The text with the Latin letters in upper case and all else as it is. -/
def latinUpper (s : String) : String := String.ofList (s.toList.map Char.toUpper)

/-- The text with the Latin letters in lower case and all else as it is. -/
def latinLower (s : String) : String := String.ofList (s.toList.map Char.toLower)

/-- Whether two texts differ at most in the case of Latin letters. -/
def sameName (a b : String) : Bool := latinLower a == latinLower b

/-! ## Whole texts -/

/-- The small form of a character on its own. -/
def lowerChar (c : Char) : List Char :=
  match lowerSpecials.lookup c.toNat with
  | some image => image.map Char.ofNat
  | none => [mapByRuns lowerRuns c]

/-- The capital form of a character. -/
def upperChar (c : Char) : List Char :=
  match upperSpecials.lookup c.toNat with
  | some image => image.map Char.ofNat
  | none => [mapByRuns upperRuns c]

/-- Whether the first character that is not case-ignorable is a cased letter. -/
def meetsCased (s : List Char) : Bool :=
  match s.dropWhile caseIgnorable.contains with
  | [] => false
  | c :: _ => cased.contains c

/-- The small form of a capital sigma: the final form after a cased letter with none to follow. -/
def lowerSigma (before after : List Char) : Char :=
  if meetsCased before && !meetsCased after then 'ς' else 'σ'

/-- The lower-case form of what follows `before`, the characters already passed, last one first. -/
def lowerAfter (before : List Char) : List Char → List Char
  | [] => []
  | c :: rest =>
    (if c = 'Σ' then [lowerSigma before rest] else lowerChar c) ++ lowerAfter (c :: before) rest

/-- The lower-case form of a text. -/
def lower (s : List Char) : List Char := lowerAfter [] s

/-- The upper-case form of a text. -/
def upper (s : List Char) : List Char := s.flatMap upperChar

/-- The lower-case form of a string. -/
def lowered (s : String) : String := String.ofList (lower s.toList)

/-! ## Single characters -/

/-- The character that stands for all characters that differ from this one in case alone. -/
def fold (c : Char) : Char := mapByRuns foldRuns c

/-- Whether two characters are the same but for case. -/
def sameLetter (a b : Char) : Bool := fold a == fold b

end Spreadsheet.Text
