import Spreadsheet.Formula.Operator

/-!
# `Formula/Token.lean` — the tokens of a formula

A token is a stretch of the formula's text together with what it was taken for. Names come in
five kinds, told apart by their looks alone: something shaped like a cell, two of those with a
colon between, a name with a parenthesis behind, a truth value, and anything else. Whether a cell
exists or a function is known is not decided here.
-/

set_option autoImplicit false

namespace Spreadsheet

/-- What a token was taken for. -/
inductive Token.Kind where
  | number (x : Float)
  /-- A text literal, by the text it stands for. -/
  | text (s : String)
  | bool (b : Bool)
  | cell
  | range
  | function
  | name
  | operator (op : Operator)
  | leftParen
  | rightParen
  | comma
  /-- The end of the formula, which every list of tokens ends with. -/
  | eof
  deriving DecidableEq, Repr

/-- A stretch of a formula's text, and where it starts in bytes. -/
structure Token where
  kind : Token.Kind
  text : String
  offset : Nat
  deriving DecidableEq, Repr

/-- How a token is named in a message. -/
def Token.display (t : Token) : String :=
  match t.kind with
  | .eof => "end of formula"
  | _ => "'" ++ t.text ++ "'"

namespace Token

/-- The binary operator that a token spells, if it spells one. -/
def operator? (t : Token) : Option Operator :=
  match t.kind with
  | .operator op => some op
  | _ => none

/-- The sign that a token in front of an operand spells, if it spells one. -/
def sign? (t : Token) : Option Sign :=
  match t.kind with
  | .operator .add => some .plus
  | .operator .subtract => some .minus
  | _ => none

end Token

end Spreadsheet
