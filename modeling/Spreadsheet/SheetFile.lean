import Spreadsheet.Address.Reader
import Spreadsheet.Input
import Spreadsheet.Text.Split

/-!
# `SheetFile.lean` — sheets as text files

A sheet file has one cell to a line, `REFERENCE: INPUT`, where the input is anything that can be
typed into a cell. A line `[Name]` says that the cells below it belong to the sheet of that name.
Empty lines and lines that start with `#` say nothing, and white space around a line, a name, a
reference or an input does not count.

Inside a quoted input a backslash takes a quote or a backslash behind it literally, so that any
text without line breaks can be written; before anything else it stands for itself.
-/

set_option autoImplicit false

namespace Spreadsheet.SheetFile

/-- What is wrong with a line. -/
inductive Fault where
  | header
  | format
  | reference (text : String)
  deriving DecidableEq, Repr

def Fault.message : Fault → String
  | .header => "Expected '[SheetName]' header"
  | .format => "Expected 'CELLREF: VALUE' format"
  | .reference text => s!"Invalid cell reference: {text}"

/-- A cell of a file. -/
structure Entry where
  /-- The sheet named last before it; none before the first name. -/
  sheet : Option String
  position : Position
  input : String
  deriving DecidableEq, Repr

/-- What a line says. -/
inductive Line where
  | nothing
  | header (name : String)
  | cell (position : Position) (input : String)
  deriving DecidableEq, Repr

/-- Takes backslashes before quotes and backslashes away. -/
def unescape : List Char → List Char
  | '\\' :: '\\' :: rest => '\\' :: unescape rest
  | '\\' :: '"' :: rest => '"' :: unescape rest
  | c :: rest => c :: unescape rest
  | [] => []

/-- The input that stands behind a reference, its escapes taken away if it is quoted. -/
def decode (s : List Char) : List Char :=
  match Input.unquote? s with
  | some text => ['"'] ++ unescape text ++ ['"']
  | none => s

/-- The name between the brackets of a header, the opening one being behind. -/
def headerName? (s : List Char) : Option (List Char) :=
  if s.getLast? = some ']' then
    let name := Text.trim s.dropLast
    if name = [] then none else some name
  else none

/-- Reads a line. -/
def Line.read (s : List Char) : Except Fault Line :=
  match Text.trim s with
  | [] => .ok .nothing
  | '#' :: _ => .ok .nothing
  | '[' :: rest =>
    match headerName? rest with
    | some name => .ok (.header (String.ofList name))
    | none => .error .header
  | s =>
    match Text.cut? ':' s with
    | none => .error .format
    | some (reference, input) =>
      let reference := String.ofList (Text.trim reference)
      match Position.ofText? reference with
      | some p => .ok (.cell p (String.ofList (decode (Text.trim input))))
      | none => .error (.reference reference)

/-- The cells in the lines from a line number on, under the sheet named last. -/
def entriesFrom (number : Nat) (sheet : Option String) :
    List (List Char) → Except (Nat × Fault) (List Entry)
  | [] => .ok []
  | line :: rest =>
    match Line.read line with
    | .error fault => .error (number, fault)
    | .ok .nothing => entriesFrom (number + 1) sheet rest
    | .ok (.header name) => entriesFrom (number + 1) (some name) rest
    | .ok (.cell p input) => (⟨sheet, p, input⟩ :: ·) <$> entriesFrom (number + 1) sheet rest

/-- The cells of a file, in order, or its first faulty line. -/
def parse (content : String) : Except (Nat × Fault) (List Entry) :=
  entriesFrom 1 none (Text.pieces '\n' content.toList)

end Spreadsheet.SheetFile
