import Spreadsheet.Formula.Expr
import Spreadsheet.Formula.Lexer

/-!
# `Formula/Parser.lean` — from tokens to a tree

Operators are read by climbing: behind an operand stands an operator, behind that the longest
expression of tighter operators, and the two operands with the operator between them are the operand
of what follows, as long as the operators bind tightly enough for where the whole stands. Operands
have signs in front, and below those stand the primaries.

Each function takes the tokens from where it starts and returns what it read together with the
tokens left over, which are fewer; that is what the recursion goes down on. At equal tokens it goes
down from a call over its arguments, an expression and an operand with signs to a primary, so one
number measures both.
-/

set_option autoImplicit false

namespace Spreadsheet.Formula

/-- The tokens left after something was read. -/
abbrev Fewer (tokens : List Token) := { rest : List Token // rest.length < tokens.length }

/-- The tokens left after something was read, if anything was. -/
abbrev NoMore (tokens : List Token) := { rest : List Token // rest.length ≤ tokens.length }

/-- The fault of the token that comes next not being one that could. -/
def unexpected : List Token → SyntaxError
  | [] => .unexpectedEnd 0
  | t :: _ => if t.kind = .eof then .unexpectedEnd t.offset else .unexpectedToken t.display t.offset

/-- Reads the parenthesis that closes the one at an offset. -/
def close (opening : Nat) : (tokens : List Token) → Except SyntaxError (Fewer tokens)
  | [] => .error (.unmatchedParen opening)
  | t :: rest =>
    if t.kind = .rightParen then .ok ⟨rest, by simp⟩
    else if t.kind = .eof then .error (.unmatchedParen opening)
    else .error (unexpected (t :: rest))

/-- A cell token as a tree: the cell, or the bare name if there is no such cell. -/
def ofCellText (s : String) : Expr :=
  match Address.ofText? s with
  | some a => .cell a
  | none => .name s

/-- A range token as a tree: the range, or the bare name if there is no such range. -/
def ofRangeText (s : String) : Expr :=
  match Range.ofText? s with
  | some r => .range r
  | none => .name s

mutual

/-- Reads an expression whose operators bind at least as tightly as a level. -/
def level (k : Nat) (tokens : List Token) : Except SyntaxError (Expr × Fewer tokens) :=
  match signed tokens with
  | .error e => .error e
  | .ok (first, ⟨rest, _⟩) =>
    match chain k first rest with
    | .error e => .error e
    | .ok (whole, ⟨rest', _⟩) => .ok (whole, ⟨rest', by omega⟩)
termination_by 5 * tokens.length + 2
decreasing_by all_goals omega

/-- Goes on with operators that bind at least as tightly as a level, behind their first operand.
What stands behind an operator is its operand as far as the operators there bind tighter. -/
def chain (k : Nat) (first : Expr) (tokens : List Token) :
    Except SyntaxError (Expr × NoMore tokens) :=
  match tokens with
  | [] => .ok (first, ⟨[], Nat.le_refl _⟩)
  | t :: after =>
    match t.operator? with
    | none => .ok (first, ⟨t :: after, Nat.le_refl _⟩)
    | some op =>
      if op.level < k then .ok (first, ⟨t :: after, Nat.le_refl _⟩)
      else
        match level (op.level + 1) after with
        | .error e => .error e
        | .ok (second, ⟨rest, _⟩) =>
          match chain k (.binary op first second) rest with
          | .error e => .error e
          | .ok (whole, ⟨rest', _⟩) => .ok (whole, ⟨rest', by simp only [List.length_cons]; omega⟩)
termination_by 5 * tokens.length
decreasing_by all_goals simp only [List.length_cons] at *; omega

/-- Reads an operand with any number of signs in front. -/
def signed (tokens : List Token) : Except SyntaxError (Expr × Fewer tokens) :=
  match tokens with
  | [] => .error (unexpected [])
  | t :: after =>
    match t.sign? with
    | none => primary (t :: after)
    | some sign =>
      match signed after with
      | .error e => .error e
      | .ok (operand, ⟨rest, _⟩) =>
        .ok (.unary sign operand, ⟨rest, by simp only [List.length_cons]; omega⟩)
termination_by 5 * tokens.length + 1
decreasing_by all_goals simp only [List.length_cons]; omega

/-- Reads a literal, a reference, a name, a call, or an expression in parentheses. -/
def primary (tokens : List Token) : Except SyntaxError (Expr × Fewer tokens) :=
  match tokens with
  | [] => .error (unexpected [])
  | ⟨kind, s, offset⟩ :: rest =>
    match kind with
    | .number x => .ok (.number x, ⟨rest, by simp⟩)
    | .text s => .ok (.text s, ⟨rest, by simp⟩)
    | .bool b => .ok (.bool b, ⟨rest, by simp⟩)
    | .cell => .ok (ofCellText s, ⟨rest, by simp⟩)
    | .range => .ok (ofRangeText s, ⟨rest, by simp⟩)
    | .name => .ok (.name s, ⟨rest, by simp⟩)
    | .function =>
      match rest with
      | [] => .error (unexpected [])
      | opening :: after =>
        if opening.kind = .leftParen then
          match call opening.offset after with
          | .error e => .error e
          | .ok (args, ⟨rest', _⟩) =>
            .ok (.call (Text.latinUpper s) args, ⟨rest', by simp only [List.length_cons]; omega⟩)
        else .error (unexpected (opening :: after))
    | .leftParen =>
      match level 0 rest with
      | .error e => .error e
      | .ok (inner, ⟨rest', _⟩) =>
        match close offset rest' with
        | .error e => .error e
        | .ok ⟨rest'', _⟩ => .ok (inner, ⟨rest'', by simp only [List.length_cons]; omega⟩)
    | .operator _ | .rightParen | .comma | .eof => .error (unexpected (⟨kind, s, offset⟩ :: rest))
termination_by 5 * tokens.length
decreasing_by all_goals simp only [List.length_cons]; omega

/-- Reads what stands between the parentheses of a call, and the closing one. -/
def call (opening : Nat) (tokens : List Token) : Except SyntaxError (List Expr × Fewer tokens) :=
  match tokens with
  | [] => .error (unexpected [])
  | t :: rest =>
    if t.kind = .rightParen then .ok ([], ⟨rest, by simp⟩) else arguments opening (t :: rest)
termination_by 5 * tokens.length + 4
decreasing_by all_goals simp only [List.length_cons]; omega

/-- Reads one argument or more, separated by commas, and the parenthesis that closes the call. -/
def arguments (opening : Nat) (tokens : List Token) :
    Except SyntaxError (List Expr × Fewer tokens) :=
  match level 0 tokens with
  | .error e => .error e
  | .ok (_, ⟨[], _⟩) => .error (.unmatchedParen opening)
  | .ok (first, ⟨t :: after, _⟩) =>
    if t.kind = .comma then
      match arguments opening after with
      | .error e => .error e
      | .ok (more, ⟨rest, _⟩) =>
        .ok (first :: more, ⟨rest, by simp only [List.length_cons] at *; omega⟩)
    else
      match close opening (t :: after) with
      | .error e => .error e
      | .ok ⟨rest, _⟩ => .ok ([first], ⟨rest, by omega⟩)
termination_by 5 * tokens.length + 3
decreasing_by
  · omega
  · simp only [List.length_cons] at *
    omega

end

/-- The tree that tokens up to the end of the formula spell. -/
def ofTokens (tokens : List Token) : Except SyntaxError Expr :=
  match level 0 tokens with
  | .error e => .error e
  | .ok (e, ⟨[], _⟩) => .ok e
  | .ok (e, ⟨t :: _, _⟩) =>
    if t.kind = .eof then .ok e else .error (.trailingInput t.display t.offset)

/-- A formula's body: the text without one equals sign in front. -/
def body (source : String) : String :=
  match source.toList with
  | '=' :: rest => String.ofList rest
  | _ => source

/-- The tree that a formula's text spells, with or without an equals sign in front. -/
def parse (source : String) : Except SyntaxError Expr :=
  match Token.scan (body source) with
  | .error e => .error e
  | .ok tokens => ofTokens tokens

end Spreadsheet.Formula
