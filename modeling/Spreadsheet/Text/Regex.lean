import Spreadsheet.Text.Case

/-!
# `Text/Regex.lean` — regular expressions, as far as wildcards need them

Texts with wildcards are matched by an engine for regular expressions, which is no part of this
library. Two things are asked of an engine: to write a text in such a way that it stands for itself
in an expression, and to compile the text of an expression to a test of texts. An engine may refuse
to compile, because the text is no expression or because its compiled form would be too large.

Whatever is computed with an engine is computed with any (`Engine`), and the program runs on one
that reads just the expressions that wildcards are translated to (`Engine.standard`). They are a
sequence of pieces between `(?is)^` and `$`, which is to say that case and line breaks make no
difference and that the whole text has to match. A piece stands for one character, for any if it is
a full stop and for a given one otherwise, or for any number of those if there is a star behind it.

Matching is decided by a table rather than by trying out repetitions: for a sequence of pieces, the
table says of every suffix of a text whether it matches. The table of no pieces is true at the
empty suffix only, and each piece in front turns the table of what follows it into its own. So the
work is the product of the two lengths, however many stars there are.
-/

set_option autoImplicit false

namespace Spreadsheet.Regex

/-- An engine for regular expressions. -/
structure Engine where
  /-- Writes a text so that it stands for itself in an expression. -/
  escape : String → String
  /-- Compiles the text of an expression, unless it is refused, to the test for what matches. -/
  compile? : String → Option (String → Bool)

/-! ## Pieces -/

/-- What stands for one character. -/
inductive Atom where
  /-- Any character. -/
  | any
  /-- This character, in either case. -/
  | exactly (c : Char)
  deriving DecidableEq, Repr

/-- A piece of an expression. -/
inductive Piece where
  /-- One character. -/
  | once (a : Atom)
  /-- Any number of characters, none included. -/
  | repeated (a : Atom)
  deriving DecidableEq, Repr

/-- Whether an atom stands for a character, given when two characters are the same but for case. -/
def Atom.accepts (same : Char → Char → Bool) : Atom → Char → Bool
  | .any, _ => true
  | .exactly c, d => same d c

/-- The table of a repetition in front of a table: at every suffix either nothing is taken, or one
more character that is accepted. -/
def repeatedTable (accepts : Char → Bool) : List Char → List Bool → List Bool
  | c :: text, b :: following =>
    let later := repeatedTable accepts text following
    (b || (accepts c && later.headD false)) :: later
  | _, following => following

/-- The table of a piece in front of others, from the table of the others. -/
def Piece.table (same : Char → Char → Bool) (text : List Char) (following : List Bool) :
    Piece → List Bool
  | .once a => List.zipWith (fun c ok => a.accepts same c && ok) text following.tail ++ [false]
  | .repeated a => repeatedTable (a.accepts same) text following

/-- The table of some pieces: for each suffix of a text, longest first, whether it matches. -/
def table (same : Char → Char → Bool) (text : List Char) (pieces : List Piece) : List Bool :=
  pieces.foldr (fun piece following => piece.table same text following)
    (List.replicate text.length false ++ [true])

/-- Whether a whole text matches some pieces. -/
def isMatch (same : Char → Char → Bool) (pieces : List Piece) (text : List Char) : Bool :=
  (table same text pieces).headD false

/-! ## Expressions as texts -/

/-- Whether a character has a meaning of its own in expressions. -/
def isMeta (c : Char) : Bool := "\\.+*?()|[]\x7b\x7d^$#&-~".toList.contains c

/-- A symbol of an expression. -/
inductive Symbol where
  | atom (a : Atom)
  | star
  deriving DecidableEq, Repr

/-- The symbol that a character without a backslash is. -/
def Symbol.ofChar? (c : Char) : Option Symbol :=
  if c = '.' then some (.atom .any)
  else if c = '*' then some .star
  else if isMeta c then none
  else some (.atom (.exactly c))

/-- Reads the symbols of an expression. A backslash takes the meaning off the next character. -/
def symbols? : List Char → Option (List Symbol)
  | [] => some []
  | '\\' :: c :: rest => do
    guard (isMeta c)
    return .atom (.exactly c) :: (← symbols? rest)
  | c :: rest => do return (← Symbol.ofChar? c) :: (← symbols? rest)

/-- Reads symbols as pieces. There is nothing that a star behind a star could repeat. -/
def pieces? : List Symbol → Option (List Piece)
  | [] => some []
  | .star :: _ => none
  | .atom a :: .star :: rest => do return .repeated a :: (← pieces? rest)
  | .atom a :: rest => do return .once a :: (← pieces? rest)

/-- What a text has to begin with to be an expression that ignores case, heeds no line breaks and
must match from the start. -/
def opening : String := "(?is)^"

/-- What it has to end with to match up to the end. -/
def closing : String := "$"

/-- The pieces of an expression between the marks for the start and the end. -/
def ofChars? (text : List Char) : Option (List Piece) := do
  guard (opening.toList.isPrefixOf text && closing.toList.isSuffixOf text)
  let inside := (text.drop opening.toList.length).dropLast
  pieces? (← symbols? inside)

/-- An engine for expressions that consist of pieces; it refuses all others. -/
def Engine.standard : Engine where
  escape s := String.ofList (s.toList.flatMap fun c => if isMeta c then ['\\', c] else [c])
  compile? text := (ofChars? text.toList).map fun pieces s =>
    isMatch Text.sameLetter pieces s.toList

end Spreadsheet.Regex
