import Spreadsheet.Function.Argument
import Spreadsheet.Text.Alphabetic
import Spreadsheet.Text.Occurrence

/-!
# `Function/Text.lean` — cutting, joining and rewriting texts

Lengths and positions count characters. A count may be larger than the text is long, but not
negative, and a position starts from one.
-/

set_option autoImplicit false

namespace Spreadsheet.TextFunction

open Argument

/-- A count of characters. -/
def count (v : Value) : Except ErrorCode Nat := do
  let x := Decimal.truncate (← v.toNumber)
  if x < 0.0 then .error .typeMismatch else return Decimal.toCount x

/-- A position, as the number of characters before it. -/
def before (v : Value) : Except ErrorCode Nat := do
  let x := Decimal.truncate (← v.toNumber)
  if x < 1.0 then .error .typeMismatch else return Decimal.toCount x - 1

/-- The count that may follow a text, one if it is left out. -/
def countOrOne : List Value → Except ErrorCode Nat
  | [] => .ok 1
  | v :: _ => count v

def concat (args : List Value) : Except ErrorCode String := do
  let parts ← (flatten args).mapM fun entry => entry.value.toText
  return String.join parts

def left : List Value → Except ErrorCode String
  | v :: rest => do
    let s ← v.toText
    return String.ofList (s.toList.take (← countOrOne rest))
  | [] => .error .typeMismatch

def right : List Value → Except ErrorCode String
  | v :: rest => do
    let s ← v.toText
    let n ← countOrOne rest
    return String.ofList (s.toList.drop (s.toList.length - n))
  | [] => .error .typeMismatch

def middle : List Value → Except ErrorCode String
  | [v, start, length] => do
    let s ← v.toText
    let skipped ← before start
    return String.ofList ((s.toList.drop skipped).take (← count length))
  | _ => .error .typeMismatch

def length : List Value → Except ErrorCode Float
  | [v] => do return Float.ofNat (← v.toText).toList.length
  | _ => .error .typeMismatch

/-- Drops the spaces at either end and leaves one between words. Other white space stays. -/
def singleSpaced (s : List Char) : List Char :=
  [' '].intercalate ((Text.pieces ' ' s).filter (· != []))

/-- Capitalizes every letter that does not follow a letter and puts the others in lower case. -/
def properFrom (afterLetter : Bool) : List Char → List Char
  | [] => []
  | c :: rest =>
    if Text.isAlphabetic c then
      (if afterLetter then Text.lowerChar c else Text.upperChar c) ++ properFrom true rest
    else c :: properFrom false rest

/-- A function that rewrites one text. -/
def rewriting (f : List Char → List Char) : List Value → Except ErrorCode String
  | [v] => do return String.ofList (f (← v.toText).toList)
  | _ => .error .typeMismatch

/-- Replaces all occurrences of a text, or the one with a number. -/
def substitute : List Value → Except ErrorCode String
  | v :: old :: new :: rest => do
    let s ← v.toText
    let old := (← old.toText).toList
    let new := (← new.toText).toList
    if old = [] then return s
    match rest with
    | [] => return String.ofList (Text.replaceAll old new s.toList)
    | nth :: _ => return String.ofList (Text.replaceNth old new (← before nth) s.toList)
  | _ => .error .typeMismatch

def functions : List Function :=
  [ .ofArguments "CONCAT" (.atLeast 1) .aggregate (textResult ∘ concat),
    .ofArguments "CONCATENATE" (.atLeast 1) .aggregate (textResult ∘ concat),
    .ofArguments "LEFT" (.between 1 2) .scalar (textResult ∘ left),
    .ofArguments "RIGHT" (.between 1 2) .scalar (textResult ∘ right),
    .ofArguments "MID" (.exactly 3) .scalar (textResult ∘ middle),
    .ofArguments "LEN" (.exactly 1) .scalar (numberResult ∘ length),
    .ofArguments "TRIM" (.exactly 1) .scalar (textResult ∘ rewriting singleSpaced),
    .ofArguments "UPPER" (.exactly 1) .scalar (textResult ∘ rewriting Text.upper),
    .ofArguments "LOWER" (.exactly 1) .scalar (textResult ∘ rewriting Text.lower),
    .ofArguments "PROPER" (.exactly 1) .scalar (textResult ∘ rewriting (properFrom false)),
    .ofArguments "SUBSTITUTE" (.between 3 4) .scalar (textResult ∘ substitute) ]

end Spreadsheet.TextFunction
