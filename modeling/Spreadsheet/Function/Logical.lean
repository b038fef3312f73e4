import Spreadsheet.Function.Argument

/-!
# `Function/Logical.lean` — conditions, and errors as data

The functions that choose between arguments take them as they are, so that an error in the branch
not chosen does no harm. Two of them are the only places where an error is looked at rather than
passed on. A chosen branch that is an empty cell counts as zero.
-/

set_option autoImplicit false

namespace Spreadsheet.Logical

open Argument

/-- The value of a chosen branch. -/
def branch : Value → Value
  | .blank => .number 0.0
  | v => v.unwrap

/-- `IF`: a branch left out stands for the truth value of the condition. -/
def choose : List Value → Value
  | condition :: branches =>
    match condition.unwrap.toBool, branches with
    | .error e, _ => .error e
    | .ok true, yes :: _ => branch yes
    | .ok true, [] => .bool true
    | .ok false, _ :: no :: _ => branch no
    | .ok false, _ => .bool false
  | [] => .error .typeMismatch

/-- The branch of the first condition that holds. -/
def firstBranch : List Value → Value
  | condition :: yes :: rest =>
    match condition.unwrap.toBool with
    | .error e => .error e
    | .ok true => branch yes
    | .ok false => firstBranch rest
  | _ => .error .notAvailable

/-- `IFS`: conditions and branches in turn. -/
def chooseFirst (args : List Value) : Value :=
  if args.length % 2 = 0 then firstBranch args else .error .typeMismatch

/-- The truth value that an entry adds to a logical aggregate: none for an empty cell and for a text
in a block. -/
def truth? (entry : Entry) : Except ErrorCode (Option Bool) :=
  match entry.value, entry.inBlock with
  | .blank, _ => .ok none
  | .text _, true => .ok none
  | v, _ => some <$> v.toBool

/-- The truth values of all arguments, of which there must be one. -/
def truths (args : List Value) : Except ErrorCode (List Bool) := do
  let found := ((← (flatten args).mapM truth?).filterMap id)
  if found.isEmpty then .error .typeMismatch else return found

def conjunction (args : List Value) : Value := boolResult ((fun bs => bs.all id) <$> truths args)

def disjunction (args : List Value) : Value := boolResult ((fun bs => bs.any id) <$> truths args)

def negation : List Value → Value
  | [v] => boolResult (not <$> v.toBool)
  | _ => .error .typeMismatch

/-- `IFERROR` and `IFNA`: a value, or a fallback where it is one of the errors to be caught. -/
def catching (caught : ErrorCode → Bool) : List Value → Value
  | [v, fallback] =>
    match v.unwrap with
    | .error e => if caught e then branch fallback else .error e
    | v => v
  | _ => .error .typeMismatch

def functions : List Function :=
  [ .ofArguments "IF" (.between 2 3) .raw choose,
    .ofArguments "AND" (.atLeast 1) .aggregate conjunction,
    .ofArguments "OR" (.atLeast 1) .aggregate disjunction,
    .ofArguments "NOT" (.exactly 1) .scalar negation,
    .ofArguments "IFS" (.atLeast 2) .raw chooseFirst,
    .ofArguments "IFERROR" (.exactly 2) .raw (catching fun _ => true),
    .ofArguments "IFNA" (.exactly 2) .raw (catching (· = .notAvailable)) ]

end Spreadsheet.Logical
