import Spreadsheet.Settings.Basic
import Spreadsheet.Settings.Literal
import Spreadsheet.TextFile

/-!
# `Settings/Document.lean` — reading a configuration

A configuration assigns values to keys, one to a line, with comments behind `#`. Every key has to
be the name of a setting and may be assigned only once; settings that are not assigned keep their
usual values.
-/

set_option autoImplicit false

namespace Spreadsheet.Settings

/-! ## Lines -/

/-- What follows the line end that comes next, if only white space and a comment stand before it. -/
def endOfLine? (s : List Char) : Option (List Char) :=
  let s := s.dropWhile Setting.isGap
  let s := if s.head? = some '#' then s.dropWhile Setting.isPrintable else s
  if s = [] then some [] else Setting.lineEnd? s

/-- Whether a character may stand in a key without quotes. -/
def isKeyChar (c : Char) : Bool := c.isAlphanum || c = '_' || c = '-'

/-- Reads a key. -/
def key? : List Char → Option (List Char × List Char)
  | '"' :: rest => Setting.basic rest
  | '\'' :: rest => Setting.literal rest
  | s =>
    if (s.takeWhile isKeyChar).isEmpty then none
      else some (s.takeWhile isKeyChar, s.dropWhile isKeyChar)

/-- Reads a key, an equals sign and a value. -/
def assignment? (s : List Char) : Option ((String × Setting) × List Char) :=
  match key? (s.dropWhile Setting.isGap) with
  | none => none
  | some (key, rest) =>
    match rest.dropWhile Setting.isGap with
    | '=' :: rest => (Setting.read (rest.dropWhile Setting.isGap)).map fun (v, rest) =>
      ((String.ofList key, v), rest)
    | _ => none

/-- Reads what one line, or more if a string goes on, assigns. -/
def line? (s : List Char) : Option (Option (String × Setting) × List Char) :=
  match endOfLine? s with
  | some rest => some (none, rest)
  | none =>
    match assignment? s with
    | some (a, rest) => (endOfLine? rest).map fun rest => (some a, rest)
    | none => none

/-- Reads all assignments in at most so many lines. -/
def assignmentsIn? : Nat → List Char → Option (List (String × Setting))
  | _, [] => some []
  | 0, _ => none
  | lines + 1, s =>
    match line? s with
    | some (a, rest) => (assignmentsIn? lines rest).map (a.toList ++ ·)
    | none => none

/-- Reads all assignments. A text has no more lines than characters. -/
def assignments? (s : List Char) : Option (List (String × Setting)) := assignmentsIn? s.length s

/-! ## Settings -/

/-- Makes an assignment. -/
def assign (settings : Settings) : String × Setting → Option Settings
  | ("default_sheet", .text name) => some { settings with defaultSheet := name }
  | ("max_range_cells", .number n) => some { settings with maxRangeCells := n }
  | ("max_file_bytes", .number n) => some { settings with maxFileBytes := n }
  | _ => none

/-- The configuration that a text describes. -/
def ofText? (text : String) : Option Settings :=
  let s := text.toList
  let s := if s.head? = some '\ufeff' then s.tail else s
  match assignments? s with
  | some assigned =>
    if (assigned.map Prod.fst).Nodup then assigned.foldlM assign Settings.default else none
  | none => none

/-- The configuration that a text describes, or why there is none. -/
def parse (text : String) : Except Failure Settings :=
  match ofText? text with
  | some settings => .ok settings
  | none => .error (.settings "not a valid configuration")

/-- Configurations of more bytes than this are refused. -/
def fileLimit : Nat := 65536

/-- The configuration in a file. -/
def load (path : String) (content : TextFile.Content) : Except Failure Settings :=
  match TextFile.read .settings path fileLimit content with
  | .ok text => parse text
  | .error e => .error e

end Spreadsheet.Settings
