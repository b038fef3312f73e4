import Spreadsheet.Decimal.Numeral
import Spreadsheet.Formula.SyntaxError
import Spreadsheet.Formula.Token
import Spreadsheet.Text.Alphabetic
import Spreadsheet.Text.Blank
import Spreadsheet.Text.Case

/-!
# `Formula/Lexer.lean` — cutting a formula's text into tokens

White space separates tokens and is dropped. At any other character `lexeme` decides what token
starts there and how many characters it takes beyond the first; the text of a token is then cut
out of the formula, never put together anew. So a token's text is what stands at its offset, by
construction, and the text between two tokens is white space.
-/

set_option autoImplicit false

namespace Spreadsheet.Token

/-! ## Numerals -/

/-- How many digits a text starts with. -/
def digitRun (s : List Char) : Nat := (s.takeWhile Char.isDigit).length

/-- How long the digits and the point are that a text starts with. -/
def mantissaLength (s : List Char) : Nat :=
  let whole := digitRun s
  match s.drop whole with
  | '.' :: fraction => whole + 1 + digitRun fraction
  | _ => whole

/-- How long the exponent is that a text starts with, zero if it has no digits. -/
def exponentLength : List Char → Nat
  | e :: rest =>
    if e = 'e' ∨ e = 'E' then
      match rest with
      | c :: digits =>
        if c = '+' ∨ c = '-' then
          if digitRun digits = 0 then 0 else 2 + digitRun digits
        else if digitRun rest = 0 then 0 else 1 + digitRun rest
      | [] => 0
    else 0
  | [] => 0

/-- The numeral that a text starts with, and its length. A second point is a fault. -/
def numeral (offset : Nat) (s : List Char) : Except SyntaxError (Kind × Nat) :=
  let mantissa := mantissaLength s
  if (s.drop mantissa).head? = some '.' then .error (.unexpectedChar '.' (offset + mantissa))
  else
    let length := mantissa + exponentLength (s.drop mantissa)
    match (Decimal.numeral? (s.take length)).map Decimal.Scaled.toFloat with
    | some x => if x.isFinite then .ok (.number x, length) else .error (.numberOutOfRange offset)
    | none => .error (.numberOutOfRange offset)

/-! ## Texts -/

/-- Reads a literal up to its closing mark, the opening one being behind: the text with doubled
marks made single, and how many characters that took. -/
def closeLiteral (mark : Char) : List Char → Option (List Char × Nat)
  | [] => none
  | [c] => if c = mark then some ([], 1) else none
  | c :: d :: rest =>
    if c = mark then
      if d = mark then (closeLiteral mark rest).map fun (text, n) => (mark :: text, n + 2)
      else some ([], 1)
    else (closeLiteral mark (d :: rest)).map fun (text, n) => (c :: text, n + 1)

/-! ## Names -/

/-- Whether a name may start with a character. An apostrophe starts a sheet name. -/
def startsName (c : Char) : Bool := Text.isAlphabetic c || c == '_' || c == '$' || c == '\''

/-- Whether the second corner of a range may start with a character. -/
def startsCorner (c : Char) : Bool := Text.isAlphabetic c || c == '$' || c == '\''

/-- Whether a character may stand inside a name. -/
def isNameChar (c : Char) : Bool := Text.isAlphanumeric c || c == '_' || c == '.' || c == '$'

/-- How many name characters a text starts with. -/
def nameRun (s : List Char) : Nat := (s.takeWhile isNameChar).length

/-- How many characters of a text make up a name with at most one exclamation mark in it. -/
def bareNameLength (s : List Char) : Nat :=
  let sheet := nameRun s
  match s.drop sheet with
  | '!' :: rest => sheet + 1 + nameRun rest
  | _ => sheet

/-- How many bytes a text takes. -/
def width (s : List Char) : Nat := s.foldl (fun n c => n + c.utf8Size) 0

/-- How many characters of a text make up a name. A sheet name between apostrophes must be closed
and have an exclamation mark behind it. -/
def nameLength (offset : Nat) : List Char → Except SyntaxError Nat
  | '\'' :: rest =>
    match closeLiteral '\'' rest with
    | none => .error (.unterminated offset)
    | some (_, n) =>
      let behind := rest.drop n
      let place := offset + width ('\'' :: rest.take n)
      match behind with
      | '!' :: _ => .ok (1 + n + bareNameLength behind)
      | c :: _ => .error (.unexpectedChar c place)
      | [] => .error (.unexpectedEnd place)
  | s => .ok (bareNameLength s)

/-- What stands behind the last exclamation mark of a text. -/
def localPart (s : List Char) : List Char := (s.reverse.takeWhile (· != '!')).reverse

/-- Drops a dollar sign. -/
def dropDollar : List Char → List Char
  | '$' :: rest => rest
  | s => s

/-- Whether a text looks like a cell: letters, then digits, a dollar sign before either. -/
def isCellShaped (s : List Char) : Bool :=
  let (letters, rest) := (dropDollar (localPart s)).span Char.isAlpha
  let digits := dropDollar rest
  letters != [] && digits != [] && digits.all Char.isDigit

/-- How a name that is no cell is taken, from its text and what stands behind it. -/
def classify (name behind : List Char) : Kind :=
  let plain := !name.any fun c => c == '!' || c == '$' || c == '\''
  if plain && behind.head? = some '(' then .function
  else if plain && Text.sameName (String.ofList name) "TRUE" then .bool true
  else if plain && Text.sameName (String.ofList name) "FALSE" then .bool false
  else .name

/-- The name that a text starts with, and its length. Two cells with a colon between are one
token; a colon that does not lead to a second cell is left alone. -/
def name (offset : Nat) (s : List Char) : Except SyntaxError (Kind × Nat) :=
  match nameLength offset s with
  | .error e => .error e
  | .ok n =>
    let behind := s.drop n
    if isCellShaped (s.take n) then
      match behind with
      | ':' :: c :: rest =>
        if startsCorner c then
          match nameLength (offset + width (s.take n) + 1) (c :: rest) with
          | .error e => .error e
          | .ok m =>
            .ok (if isCellShaped ((c :: rest).take m) then (.range, n + 1 + m) else (.cell, n))
        else .ok (.cell, n)
      | _ => .ok (.cell, n)
    else .ok (classify (s.take n) behind, n)

/-! ## All tokens -/

/-- The token that starts with a character, and how many characters it takes beyond that one. -/
def lexeme (offset : Nat) (c : Char) (rest : List Char) : Except SyntaxError (Kind × Nat) :=
  let beyond (found : Except SyntaxError (Kind × Nat)) : Except SyntaxError (Kind × Nat) :=
    found.map fun (kind, n) => (kind, n - 1)
  if c.isDigit || (c == '.' && rest.head?.any Char.isDigit) then beyond (numeral offset (c :: rest))
  else if startsName c then beyond (name offset (c :: rest))
  else match c with
    | '"' =>
      match closeLiteral '"' rest with
      | some (text, n) => .ok (.text (String.ofList text), n)
      | none => .error (.unterminated offset)
    | '(' => .ok (.leftParen, 0)
    | ')' => .ok (.rightParen, 0)
    | ',' => .ok (.comma, 0)
    | '+' => .ok (.operator .add, 0)
    | '-' => .ok (.operator .subtract, 0)
    | '*' => .ok (.operator .multiply, 0)
    | '/' => .ok (.operator .divide, 0)
    | '^' => .ok (.operator .power, 0)
    | '&' => .ok (.operator .concat, 0)
    | '=' => .ok (.operator .equal, 0)
    | '<' =>
      match rest with
      | '=' :: _ => .ok (.operator .lessEqual, 1)
      | '>' :: _ => .ok (.operator .notEqual, 1)
      | _ => .ok (.operator .less, 0)
    | '>' =>
      match rest with
      | '=' :: _ => .ok (.operator .greaterEqual, 1)
      | _ => .ok (.operator .greater, 0)
    | _ => .error (.unexpectedChar c offset)

/-- The tokens of a text that starts at an offset, up to and including the end of the formula. -/
def scanFrom (offset : Nat) : List Char → Except SyntaxError (List Token)
  | [] => .ok [⟨.eof, "", offset⟩]
  | c :: rest =>
    if Text.isBlank c then scanFrom (offset + c.utf8Size) rest
    else
      match lexeme offset c rest with
      | .error e => .error e
      | .ok (kind, n) =>
        let text := c :: rest.take n
        match scanFrom (offset + width text) (rest.drop n) with
        | .error e => .error e
        | .ok tokens => .ok (⟨kind, String.ofList text, offset⟩ :: tokens)
termination_by s => s.length
decreasing_by all_goals simp only [List.length_drop, List.length_cons]; omega

/-- The tokens of a formula's body. -/
def scan (source : String) : Except SyntaxError (List Token) := scanFrom 0 source.toList

end Spreadsheet.Token
