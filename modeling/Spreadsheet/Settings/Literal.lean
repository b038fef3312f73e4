/-!
# `Settings/Literal.lean` — the values that a configuration can assign

A configuration is written in TOML. Of its values only strings, in all four notations, and
integers, in all four bases, are the value of any setting, so these are all that is read here;
where another kind of value stands, the configuration cannot be used in any case.

Each reader takes the characters behind an opening quote and gives what the string holds together
with what follows the closing one.
-/

set_option autoImplicit false

namespace Spreadsheet

/-- The value of a setting. -/
inductive Setting where
  | text (s : String)
  | number (n : Nat)
  deriving DecidableEq, Repr

namespace Setting

/-! ## Characters -/

/-- Whether a character separates words on a line. -/
def isGap (c : Char) : Bool := c = ' ' || c = '\t'

/-- Whether a character may stand in a string or a comment. -/
def isPrintable (c : Char) : Bool := c = '\t' || (' ' ≤ c && c ≠ '\x7f')

/-- The value of a hexadecimal digit. -/
def hexDigit? (c : Char) : Option Nat :=
  if '0' ≤ c ∧ c ≤ '9' then some (c.toNat - '0'.toNat)
  else if 'a' ≤ c ∧ c ≤ 'f' then some (c.toNat - 'a'.toNat + 10)
  else if 'A' ≤ c ∧ c ≤ 'F' then some (c.toNat - 'A'.toNat + 10)
  else none

/-- The character whose code point hexadecimal digits spell. -/
def ofCodePoint? (digits : List Char) : Option Char :=
  match digits.mapM hexDigit? with
  | some ds =>
    let n := ds.foldl (fun n d => n * 16 + d) 0
    if n.isValidChar then some (Char.ofNat n) else none
  | none => none

/-- What a backslash and a letter stand for. -/
def escape? : Char → Option Char
  | 'b' => some '\x08'
  | 't' => some '\t'
  | 'n' => some '\n'
  | 'f' => some '\x0c'
  | 'r' => some '\r'
  | '"' => some '"'
  | '\\' => some '\\'
  | _ => none

/-! ## Strings -/

/-- What a reader has read, with one more character in front if there is one. -/
def push (c? : Option Char) (read? : Option (List Char × List Char)) :
    Option (List Char × List Char) :=
  match c?, read? with
  | some c, some (s, rest) => some (c :: s, rest)
  | _, _ => none

/-- A string between double quotes, on one line. -/
def basic : List Char → Option (List Char × List Char)
  | [] => none
  | '"' :: rest => some ([], rest)
  | '\\' :: 'u' :: a :: b :: c :: d :: rest => push (ofCodePoint? [a, b, c, d]) (basic rest)
  | '\\' :: 'U' :: a :: b :: c :: d :: e :: f :: g :: h :: rest =>
    push (ofCodePoint? [a, b, c, d, e, f, g, h]) (basic rest)
  | '\\' :: c :: rest => push (escape? c) (basic rest)
  | c :: rest => if isPrintable c && c ≠ '\\' then push (some c) (basic rest) else none

/-- A string between apostrophes, on one line. It has no escapes. -/
def literal : List Char → Option (List Char × List Char)
  | [] => none
  | '\'' :: rest => some ([], rest)
  | c :: rest => if isPrintable c then push (some c) (literal rest) else none

/-- What is left of a text when the line it starts with ends at once. -/
def lineEnd? : List Char → Option (List Char)
  | '\n' :: rest => some rest
  | '\r' :: '\n' :: rest => some rest
  | _ => none

/-- Takes away white space and line ends. -/
def skipBlank : List Char → List Char
  | '\r' :: '\n' :: rest => skipBlank rest
  | c :: rest => if isGap c || c = '\n' then skipBlank rest else c :: rest
  | [] => []

theorem skipBlank_length_le (s : List Char) : (skipBlank s).length ≤ s.length := by
  fun_induction skipBlank s <;> simp <;> omega

/-- What follows a backslash that ends its line: the line end and all white space go. -/
def joined? (s : List Char) : Option (List Char) := (lineEnd? (s.dropWhile isGap)).map skipBlank

theorem lineEnd?_length_lt {s rest : List Char} (h : lineEnd? s = some rest) :
    rest.length < s.length := by
  unfold lineEnd? at h
  split at h
  · cases h
    exact Nat.lt_succ_self _
  · cases h
    exact Nat.lt_succ_of_lt (Nat.lt_succ_self _)
  · cases h

theorem joined?_length_lt {s rest : List Char} (h : joined? s = some rest) :
    rest.length < s.length := by
  simp only [joined?, Option.map_eq_some_iff] at h
  obtain ⟨t, ht, rfl⟩ := h
  have h₁ := lineEnd?_length_lt ht
  have h₂ := skipBlank_length_le t
  have h₃ : (s.dropWhile isGap).length ≤ s.length := (List.dropWhile_suffix isGap).length_le
  omega

/-- A string between three double quotes each. Up to two more quotes may stand before the
closing ones. -/
def multilineBasic (s : List Char) : Option (List Char × List Char) :=
  match s with
  | [] => none
  | '"' :: '"' :: '"' :: '"' :: '"' :: rest => some (['"', '"'], rest)
  | '"' :: '"' :: '"' :: '"' :: rest => some (['"'], rest)
  | '"' :: '"' :: '"' :: rest => some ([], rest)
  | '\\' :: 'u' :: a :: b :: c :: d :: rest =>
    push (ofCodePoint? [a, b, c, d]) (multilineBasic rest)
  | '\\' :: 'U' :: a :: b :: c :: d :: e :: f :: g :: h :: rest =>
    push (ofCodePoint? [a, b, c, d, e, f, g, h]) (multilineBasic rest)
  | '\\' :: rest =>
    match _joins : joined? rest with
    | some rest => multilineBasic rest
    | none =>
      match rest with
      | c :: rest => push (escape? c) (multilineBasic rest)
      | [] => none
  | '\r' :: '\n' :: rest | '\n' :: rest => push (some '\n') (multilineBasic rest)
  | c :: rest => if isPrintable c then push (some c) (multilineBasic rest) else none
termination_by s.length
decreasing_by
  all_goals simp
  all_goals try omega
  have := joined?_length_lt _joins
  omega

/-- A string between three apostrophes each. -/
def multilineLiteral : List Char → Option (List Char × List Char)
  | [] => none
  | '\'' :: '\'' :: '\'' :: '\'' :: '\'' :: rest => some (['\'', '\''], rest)
  | '\'' :: '\'' :: '\'' :: '\'' :: rest => some (['\''], rest)
  | '\'' :: '\'' :: '\'' :: rest => some ([], rest)
  | '\r' :: '\n' :: rest => push (some '\n') (multilineLiteral rest)
  | '\n' :: rest => push (some '\n') (multilineLiteral rest)
  | c :: rest => if isPrintable c then push (some c) (multilineLiteral rest) else none

/-- Takes a line end away; the first line of a string on several lines may be empty. -/
def dropLineEnd (s : List Char) : List Char := (lineEnd? s).getD s

/-- A string in any notation, the opening quote included. -/
def string? : List Char → Option (List Char × List Char)
  | '"' :: '"' :: '"' :: rest => multilineBasic (dropLineEnd rest)
  | '\'' :: '\'' :: '\'' :: rest => multilineLiteral (dropLineEnd rest)
  | '"' :: rest => basic rest
  | '\'' :: rest => literal rest
  | _ => none

/-! ## Integers -/

/-- Reads digits on, where single underscores may separate them. -/
def moreDigits (base value : Nat) : List Char → Option Nat
  | [] => some value
  | '_' :: c :: rest => digit c rest
  | c :: rest => digit c rest
where
  digit (c : Char) (rest : List Char) : Option Nat :=
    match hexDigit? c with
    | some d => if d < base then moreDigits base (value * base + d) rest else none
    | none => none

/-- The number that digits spell in a base. -/
def digits? (base : Nat) : List Char → Option Nat
  | '_' :: _ | [] => none
  | s => moreDigits base 0 s

/-- A decimal number, which has no zeros in front. -/
def decimal? : List Char → Option Nat
  | ['0'] => some 0
  | '0' :: _ => none
  | s => digits? 10 s

/-- An integer that is not negative. -/
def integer? : List Char → Option Nat
  | '0' :: 'x' :: s => digits? 16 s
  | '0' :: 'o' :: s => digits? 8 s
  | '0' :: 'b' :: s => digits? 2 s
  | '+' :: s => decimal? s
  | '-' :: s => (decimal? s).filter (· = 0)
  | s => decimal? s

/-- The first integer that is too large: a signed one has 64 bits. -/
def integerLimit : Nat := 0x8000000000000000

/-- Whether a character may be part of an integer. -/
def isIntegerChar (c : Char) : Bool := c.isAlphanum || c = '_' || c = '+' || c = '-'

/-- Reads a value. -/
def read (s : List Char) : Option (Setting × List Char) :=
  match string? s with
  | some (chars, rest) => some (.text (String.ofList chars), rest)
  | none =>
    match (integer? (s.takeWhile isIntegerChar)).filter (· < integerLimit) with
    | some n => some (.number n, s.dropWhile isIntegerChar)
    | none => none

end Setting

end Spreadsheet
