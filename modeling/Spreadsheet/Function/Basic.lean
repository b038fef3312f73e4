import Spreadsheet.Calendar
import Spreadsheet.Text.Case
import Spreadsheet.Value.Basic
import Std.Data.ExtTreeMap

/-!
# `Function/Basic.lean` — functions and the registry that holds them

A function is a name, the argument counts it accepts, what is done to its arguments before it sees
them, whether it has to be recomputed on every pass, and what it computes.

What it computes may depend on more than the arguments: on the clock, and on how often *this*
registration has been called before, which is all the memory a host function has here and what
random functions draw from. A function that looks at neither is pure, and one that is marked
stable is meant to be.
-/

set_option autoImplicit false

namespace Spreadsheet

/-- The argument counts that a function accepts. -/
inductive Arity where
  | exactly (n : Nat)
  | between (low high : Nat)
  | atLeast (n : Nat)
  deriving DecidableEq, Repr

def Arity.accepts : Arity → Nat → Bool
  | .exactly n, count => count == n
  | .between low high, count => low ≤ count && count ≤ high
  | .atLeast n, count => n ≤ count

/-- What is done to arguments before a function sees them. -/
inductive ArgumentPolicy where
  /-- Blocks arrive whole, to be taken apart; an argument that is an error ends the call. -/
  | aggregate
  /-- Every argument must be a scalar: blocks of one entry are unwrapped and errors end the call. -/
  | scalar
  /-- Blocks arrive whole, to be looked up in; an argument that is an error ends the call. -/
  | lookup
  /-- Arguments arrive as they are, errors included. -/
  | raw
  deriving DecidableEq, Repr

/-- The arguments as the function sees them, or the error that ends the call. -/
def ArgumentPolicy.apply : ArgumentPolicy → List Value → Except ErrorCode (List Value)
  | .raw, args => .ok args
  | .aggregate, args | .lookup, args =>
    match args.findSome? Value.error? with
    | some e => .error e
    | none => .ok args
  | .scalar, args =>
    args.mapM fun arg =>
      let v := arg.unwrap
      match v.error? with
      | some e => .error e
      | none => .ok v

/-- Whether a function has to be recomputed on every pass. -/
inductive Volatility where
  | stable
  | volatile
  deriving DecidableEq, Repr

/-- What a function may look at besides its arguments. -/
structure Circumstances where
  now : Moment
  /-- What random functions start from. -/
  seed : Nat
  /-- How often this registration has been called before. -/
  earlier : Nat
  deriving Repr

/-- A function that formulas can call. -/
structure Function where
  name : String
  arity : Arity
  policy : ArgumentPolicy
  volatility : Volatility
  compute : Circumstances → List Value → Value

namespace Function

def isVolatile (f : Function) : Bool := f.volatility = .volatile

/-- A stable function of its arguments alone. -/
def ofArguments (name : String) (arity : Arity) (policy : ArgumentPolicy)
    (compute : List Value → Value) :
    Function :=
  ⟨Text.latinUpper name, arity, policy, .stable, fun _ args => compute args⟩

/-- The arguments that the function computes with, or what the call comes to without it. -/
def accepted (f : Function) (args : List Value) : Except ErrorCode (List Value) :=
  if f.arity.accepts args.length then f.policy.apply args else .error .typeMismatch

/-- Calls a function. -/
def call (f : Function) (c : Circumstances) (args : List Value) : Value :=
  match f.accepted args with
  | .ok args => f.compute c args
  | .error e => .error e

end Function

/-! ## The registry -/

/-- The functions that formulas can call, by their names in capitals. -/
structure Registry where
  functions : Std.ExtTreeMap String Function

namespace Registry

def empty : Registry := ⟨∅⟩

/-- Adds a function, in place of one with the same name. -/
def insert (r : Registry) (f : Function) : Registry := ⟨r.functions.insert f.name f⟩

/-- The function with a name, whatever the case of its letters. -/
def find? (r : Registry) (name : String) : Option Function := r.functions[Text.latinUpper name]?

def isVolatile (r : Registry) (name : String) : Bool := (r.find? name).any Function.isVolatile

/-- The names of all functions, in order. -/
def names (r : Registry) : List String := r.functions.keys

end Registry

/-- How often each registration has been called. -/
structure CallCounts where
  counts : Std.ExtTreeMap String Nat

namespace CallCounts

def initial : CallCounts := ⟨∅⟩

def count (c : CallCounts) (name : String) : Nat := (c.counts[name]?).getD 0

/-- Counts one more call. -/
def increment (c : CallCounts) (name : String) : CallCounts :=
  ⟨c.counts.insert name (c.count name + 1)⟩

/-- Forgets the calls of a registration that was replaced. -/
def reset (c : CallCounts) (name : String) : CallCounts := ⟨c.counts.erase name⟩

end CallCounts

end Spreadsheet
