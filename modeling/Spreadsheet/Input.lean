import Spreadsheet.Value.Coercion

/-!
# `Input.lean` — what is typed into a cell

White space around an input does not count. An equals sign makes it a formula, quotes around it a
text, and without either it is a number or a truth value if it spells one and a text otherwise.
Written back for editing, an input takes a form that is classified as the same input again; a text
that would be taken for something else gets its quotes back.
-/

set_option autoImplicit false

namespace Spreadsheet

/-- An input, classified. -/
inductive Input where
  | literal (s : Scalar)
  /-- The formula's text without its equals sign. -/
  | formula (source : String)
  deriving Repr

namespace Input

/-- The text between the quotes that an input starts and ends with. -/
def unquote? : List Char → Option (List Char)
  | '"' :: rest => if rest.getLast? = some '"' then some rest.dropLast else none
  | _ => none

/-- What an input without equals sign or quotes is. -/
def ofPlain (s : List Char) : Scalar :=
  match (Decimal.number? s).filter Float.isFinite with
  | some x => .number x
  | none =>
    let name := String.ofList s
    if Text.sameName name "TRUE" then .bool true
    else if Text.sameName name "FALSE" then .bool false
    else .text name

/-- Classifies an input without white space around it. -/
def ofTrimmed : List Char → Input
  | [] => .literal .blank
  | '=' :: source => .formula (String.ofList source)
  | s =>
    match unquote? s with
    | some text => .literal (.text (String.ofList text))
    | none => .literal (ofPlain s)

/-- Classifies an input. -/
def classify (s : String) : Input := ofTrimmed (Text.trim s.toList)

/-- Whether a text typed as it is would be taken for that text. -/
def isPlainText (s : String) : Bool :=
  match classify s with
  | .literal (.text t) => t == s
  | _ => false

/-- The form of an input for editing. -/
def write : Input → String
  | .literal (.text s) => if isPlainText s then s else "\"" ++ s ++ "\""
  | .literal s => s.toText
  | .formula source => "=" ++ source

end Input

end Spreadsheet
