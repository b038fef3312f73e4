import Spreadsheet.Formula.Parser

/-!
# `Proofs/Formula/Grammar.lean` — the words that the parser reads

What the parser does is written down as a relation on words, which are tokens without their places
(`Reads`). The parser reads by it: what it returns is derivable (`level_sound` and its
companions), and what is derivable it returns (`Reads.runs`). Since it returns one thing only,
tokens with the same words spell the same tree or none (`ofTokens_eq_ok_iff`), and the tree can be
looked for by rules, without the places of faults and the counts of tokens that the parser carries
along.

The rules climb as the parser does: an operand that was read becomes part of another one when an
operator follows. So what words spell is not seen from these words alone. `Joins` says it for all
that may stand behind them, and it is kept by each way to put words together.

In the parser's own form each companion is a function by recursion on the tokens that are left,
and so is the lemma on it. The rules have no tokens to count, and what is shown by them goes by
induction on how a phrase was read.
-/

set_option autoImplicit false

namespace Spreadsheet

/-! ## Words -/

/-- Whether trees keep the text of a token that was taken for something. -/
def Token.Kind.keepsText : Token.Kind → Bool
  | .cell | .range | .function | .name => true
  | _ => false

/-- What a token means to the grammar: what it was taken for, and its text if trees keep that. -/
structure Word where
  kind : Token.Kind
  text : String
  deriving DecidableEq, Repr

/-- A token without its place. -/
def Token.word (t : Token) : Word := ⟨t.kind, if t.kind.keepsText then t.text else ""⟩

namespace Word

/-- A word whose text means nothing. -/
abbrev plain (kind : Token.Kind) : Word := ⟨kind, ""⟩

/-- The word of a sign. -/
def ofSign : Sign → Word
  | .plus => plain (.operator .add)
  | .minus => plain (.operator .subtract)

theorem ofSign_injective {s s' : Sign} (same : ofSign s = ofSign s') : s = s' := by
  revert same
  cases s <;> cases s' <;> decide

/-- The tree that a word is on its own. -/
def tree? (w : Word) : Option Expr :=
  match w.kind with
  | .number x => some (.number x)
  | .text s => some (.text s)
  | .bool b => some (.bool b)
  | .cell => some (Formula.ofCellText w.text)
  | .range => some (Formula.ofRangeText w.text)
  | .name => some (.name w.text)
  | _ => none

/-- Whether a primary can start with a word. -/
def isOperand (w : Word) : Bool := w.tree?.isSome || w.kind == .function || w.kind == .leftParen

/-- Whether an expression can start with a word. -/
def starts (w : Word) : Bool := w.isOperand || w == ofSign .plus || w == ofSign .minus

end Word

namespace Formula

/-- The words of tokens. -/
abbrev words (tokens : List Token) : List Word := tokens.map Token.word

theorem word_of_kind {t : Token} {kind : Token.Kind} (h : t.kind = kind)
    (keeps : kind.keepsText = false) :
    t.word = Word.plain kind := by
  unfold Token.word
  rw [h, keeps]
  rfl

/-! ## Rules -/

/-- What can be read. -/
inductive Phrase where
  /-- An expression whose operators bind at least as tightly as a level. -/
  | level (k : Nat)
  /-- What follows the first operand, as far as operators bind at least as tightly as a level. -/
  | chain (k : Nat) (first : Expr)
  | signed
  | primary
  /-- What follows the opening parenthesis of a call. -/
  | call
  | arguments

/-- No operator of a level or of a tighter one comes next. -/
def Follows (k : Nat) (ws : List Word) : Prop :=
  ∀ op more, ws = Word.plain (.operator op) :: more → op.level < k

/-- `Reads phrase ws es ws'`: a phrase that `ws` starts with spells `es`, and `ws'` follows it. -/
inductive Reads : Phrase → List Word → List Expr → List Word → Prop where
  | level {k : Nat} {ws ws' ws'' : List Word} {e : Expr} {es : List Expr}
      (first : Reads .signed ws [e] ws')
      (rest : Reads (.chain k e) ws' es ws'') : Reads (.level k) ws es ws''
  | stop {k : Nat} {ws : List Word} {e : Expr} (follows : Follows k ws) :
      Reads (.chain k e) ws [e] ws
  | operator {k : Nat} {op : Operator} {ws ws' ws'' : List Word} {e e' : Expr} {es : List Expr}
      (tight : k ≤ op.level)
      (second : Reads (.level (op.level + 1)) ws [e'] ws')
      (rest : Reads (.chain k (.binary op e e')) ws' es ws'') :
      Reads (.chain k e) (Word.plain (.operator op) :: ws) es ws''
  | sign {sign : Sign} {ws ws' : List Word} {e : Expr} (operand : Reads .signed ws [e] ws') :
      Reads .signed (Word.ofSign sign :: ws) [.unary sign e] ws'
  | unsigned {ws ws' : List Word} {e : Expr} (operand : Reads .primary ws [e] ws') :
      Reads .signed ws [e] ws'
  | atom {w : Word} {ws : List Word} {e : Expr} (spells : w.tree? = some e) :
      Reads .primary (w :: ws) [e] ws
  | parentheses {ws ws' : List Word} {e : Expr}
      (inner : Reads (.level 0) ws [e] (Word.plain .rightParen :: ws')) :
      Reads .primary (Word.plain .leftParen :: ws) [e] ws'
  | call {s : String} {ws ws' : List Word} {es : List Expr} (args : Reads .call ws es ws') :
      Reads .primary (⟨.function, s⟩ :: Word.plain .leftParen :: ws)
      [.call (Text.latinUpper s) es] ws'
  | noArguments {ws : List Word} : Reads .call (Word.plain .rightParen :: ws) [] ws
  | someArguments {ws ws' : List Word} {es : List Expr} (args : Reads .arguments ws es ws') :
      Reads .call ws es ws'
  | last {ws ws' : List Word} {e : Expr}
      (arg : Reads (.level 0) ws [e] (Word.plain .rightParen :: ws')) :
      Reads .arguments ws [e] ws'
  | next {ws ws' ws'' : List Word} {e : Expr} {es : List Expr}
      (arg : Reads (.level 0) ws [e] (Word.plain .comma :: ws'))
      (more : Reads .arguments ws' es ws'') : Reads .arguments ws (e :: es) ws''

/-! ## The parser keeps to the rules -/

theorem operator?_eq_some {t : Token} {op : Operator} :
    t.operator? = some op ↔ t.word = Word.plain (.operator op) := by
  obtain ⟨kind, s, offset⟩ := t
  cases kind <;> simp [Token.operator?, Token.word, Token.Kind.keepsText]

theorem sign?_eq_some {t : Token} {sign : Sign} :
    t.sign? = some sign ↔ t.word = Word.ofSign sign := by
  obtain ⟨kind, s, offset⟩ := t
  cases sign <;> cases kind <;> simp [Token.sign?, Token.word, Token.Kind.keepsText, Word.ofSign]
  all_goals rename_i op; cases op <;> simp

/-- Reading the parenthesis that closes another takes one word. -/
theorem words_of_close {opening : Nat} {tokens : List Token} {rest : Fewer tokens}
    (h : close opening tokens = .ok rest) :
    words tokens = Word.plain .rightParen :: words rest.1 := by
  unfold close at h
  split at h
  next => cases h
  next t more =>
    split at h
    next paren =>
      cases h
      rw [words, List.map_cons, word_of_kind paren rfl]
    next => split at h <;> cases h

/-- What is read from the name of a function on is a call. -/
theorem primary_function {s : String} {offset : Nat} {after : List Token} {e : Expr}
    {rest : Fewer (⟨.function, s, offset⟩ :: after)}
    (h : primary (⟨.function, s, offset⟩ :: after) = .ok (e, rest)) :
    ∃ opening after' args rest', after = opening :: after' ∧ opening.kind = .leftParen ∧
      call opening.offset after' = .ok (args, rest') ∧ e = .call (Text.latinUpper s) args ∧
      rest'.1 = rest.1 := by
  rw [primary.eq_def] at h
  dsimp only at h
  split at h
  next => cases h
  next opening after' =>
    split at h
    next paren =>
      split at h
      next => cases h
      next args rest' fewer found =>
        cases h
        exact ⟨opening, after', args, _, rfl, paren, found, rfl, rfl⟩
    next => cases h

mutual

theorem level_sound {k : Nat} {tokens : List Token} {e : Expr} {rest : Fewer tokens}
    (h : level k tokens = .ok (e, rest)) : Reads (.level k) (words tokens) [e] (words rest.1) := by
  rw [level] at h
  split at h
  next => cases h
  next first rest' fewer found =>
    split at h
    next => cases h
    next whole rest'' noMore chained =>
      cases h
      exact .level (signed_sound found) (chain_sound chained)
termination_by 5 * tokens.length + 2
decreasing_by all_goals omega

theorem chain_sound {k : Nat} {first e : Expr} : ∀ {tokens : List Token} {rest : NoMore tokens},
    chain k first tokens = .ok (e, rest) → Reads (.chain k first) (words tokens) [e] (words rest.1)
  | [], rest, h => by
    rw [chain.eq_def] at h
    cases h
    exact .stop nofun
  | t :: after, rest, h => by
    rw [chain.eq_def] at h
    dsimp only at h
    split at h
    -- The next word is no operator, or a looser one: the chain stops in front of it.
    next none =>
      cases h
      refine .stop fun op more start => ?_
      simp only [words, List.map_cons, List.cons.injEq, ← operator?_eq_some, none] at start
      cases start.1
    next op spelled =>
      rw [operator?_eq_some] at spelled
      split at h
      next looser =>
        cases h
        refine .stop fun op' more start => ?_
        simp only [words, List.map_cons, List.cons.injEq, spelled] at start
        cases start.1
        exact looser
      next tight =>
        split at h
        next => cases h
        next second rest' fewer found =>
          split at h
          next => cases h
          next whole rest'' noMore chained =>
            cases h
            rw [words, List.map_cons, spelled]
            exact .operator (Nat.le_of_not_lt tight) (level_sound found) (chain_sound chained)
termination_by tokens => 5 * tokens.length
decreasing_by all_goals simp only [List.length_cons] at *; omega

theorem signed_sound {e : Expr} : ∀ {tokens : List Token} {rest : Fewer tokens},
    signed tokens = .ok (e, rest) → Reads .signed (words tokens) [e] (words rest.1)
  | [], rest, h => by
    rw [signed.eq_def] at h
    cases h
  | t :: after, rest, h => by
    rw [signed.eq_def] at h
    dsimp only at h
    split at h
    next => exact .unsigned (primary_sound h)
    next sign spelled =>
      split at h
      next => cases h
      next operand rest' fewer found =>
        cases h
        rw [words, List.map_cons, sign?_eq_some.1 spelled]
        exact .sign (signed_sound found)
termination_by tokens => 5 * tokens.length + 1
decreasing_by all_goals simp only [List.length_cons]; omega

theorem primary_sound {e : Expr} : ∀ {tokens : List Token} {rest : Fewer tokens},
    primary tokens = .ok (e, rest) → Reads .primary (words tokens) [e] (words rest.1)
  | [], rest, h => by
    rw [primary.eq_def] at h
    cases h
  | ⟨kind, s, offset⟩ :: after, rest, h => by
    have read := h
    rw [primary.eq_def] at h
    dsimp only at h
    split at h
    case h_1 | h_2 | h_3 | h_4 | h_5 | h_6 =>
      cases h
      exact .atom rfl
    case h_7 =>
      obtain ⟨opening, after', args, rest', start, paren, found, rfl, left⟩ := primary_function read
      have shorter : after'.length < after.length := by simp [start]
      rw [← left, words, start, List.map_cons, List.map_cons, word_of_kind paren rfl]
      exact .call (call_sound found)
    case h_8 =>
      split at h
      next => cases h
      next inner rest' fewer found =>
        split at h
        next => cases h
        next rest'' fewer' closed =>
          cases h
          rw [words, List.map_cons]
          exact .parentheses (words_of_close closed ▸ level_sound found)
    all_goals cases h
termination_by tokens => 5 * tokens.length
decreasing_by all_goals simp only [List.length_cons]; omega

theorem call_sound {opening : Nat} {es : List Expr} : ∀ {tokens : List Token} {rest : Fewer tokens},
    call opening tokens = .ok (es, rest) → Reads .call (words tokens) es (words rest.1)
  | [], rest, h => by
    rw [call.eq_def] at h
    cases h
  | t :: after, rest, h => by
    rw [call.eq_def] at h
    dsimp only at h
    split at h
    next paren =>
      cases h
      rw [words, List.map_cons, word_of_kind paren rfl]
      exact .noArguments
    next => exact .someArguments (arguments_sound h)
termination_by tokens => 5 * tokens.length + 4
decreasing_by all_goals simp only [List.length_cons]; omega

theorem arguments_sound {opening : Nat} {tokens : List Token} {es : List Expr} {rest : Fewer tokens}
    (h : arguments opening tokens = .ok (es, rest)) :
    Reads .arguments (words tokens) es (words rest.1) := by
  rw [arguments] at h
  split at h
  next => cases h
  next => cases h
  next first t after fewer found =>
    have read := level_sound found
    -- What is left behind an argument is shorter, so the recursion on the tokens goes on.
    have shorter : after.length < tokens.length := Nat.lt_of_succ_lt fewer
    split at h
    next comma =>
      simp only [words, List.map_cons, word_of_kind comma rfl] at read
      split at h
      next => cases h
      next more rest' fewer' others =>
        cases h
        exact .next read (arguments_sound others)
    next =>
      split at h
      next => cases h
      next rest' fewer' closed =>
        cases h
        exact .last (words_of_close closed ▸ read)
termination_by 5 * tokens.length + 3
decreasing_by all_goals omega

end

/-! ## The parser returns what the rules derive -/

/-- What starts with its first operand starts with a word that can start one. -/
theorem Reads.head {phrase : Phrase} {ws ws' : List Word} {es : List Expr}
    (reads : Reads phrase ws es ws') :
    match phrase with
    | .chain _ _ | .call => True
    | .primary => ∃ w more, ws = w :: more ∧ w.isOperand = true
    | _ => ∃ w more, ws = w :: more ∧ w.starts = true := by
  induction reads with
  | level _ _ ih | last _ ih | next _ _ ih => exact ih
  | stop | operator | noArguments | someArguments => trivial
  | @sign sign ws _ _ _ _ => exact ⟨_, ws, rfl, by cases sign <;> decide⟩
  | unsigned _ ih =>
    obtain ⟨w, more, start, operand⟩ := ih
    exact ⟨w, more, start, by simp [Word.starts, operand]⟩
  | @atom w ws e spells => exact ⟨w, ws, rfl, by simp [Word.isOperand, spells]⟩
  | parentheses => exact ⟨_, _, rfl, rfl⟩
  | call => exact ⟨_, _, rfl, rfl⟩

/-- The parser reads a phrase from tokens, and stops before some words. -/
def Returns (phrase : Phrase) (tokens : List Token) (es : List Expr) (ws : List Word) : Prop :=
  match phrase with
  | .level k => ∃ e rest, level k tokens = .ok (e, rest) ∧ [e] = es ∧ words rest.1 = ws
  | .chain k first => ∃ e rest, chain k first tokens = .ok (e, rest) ∧ [e] = es ∧ words rest.1 = ws
  | .signed => ∃ e rest, signed tokens = .ok (e, rest) ∧ [e] = es ∧ words rest.1 = ws
  | .primary => ∃ e rest, primary tokens = .ok (e, rest) ∧ [e] = es ∧ words rest.1 = ws
  | .call => ∀ opening, ∃ rest, call opening tokens = .ok (es, rest) ∧ words rest.1 = ws
  | .arguments => ∀ opening, ∃ rest, arguments opening tokens = .ok (es, rest) ∧ words rest.1 = ws

/-- The parser reads a phrase wherever its words stand. -/
def Runs (phrase : Phrase) (ws : List Word) (es : List Expr) (ws' : List Word) : Prop :=
  ∀ tokens, words tokens = ws → Returns phrase tokens es ws'

/-- Tokens whose words start with one without a text. -/
theorem exists_of_words {tokens : List Token} {w : Word} {ws : List Word}
    (h : words tokens = w :: ws) :
    ∃ t after, tokens = t :: after ∧ t.word = w ∧ words after = ws := by
  cases tokens with
  | nil => cases h
  | cons t after =>
    rw [words, List.map_cons, List.cons.injEq] at h
    exact ⟨t, after, rfl, h⟩

theorem kind_of_word {t : Token} {w : Word} (h : t.word = w) : t.kind = w.kind := by
  rw [← h]
  rfl

section Runs

variable {k : Nat} {ws ws' ws'' : List Word} {e e' : Expr} {es : List Expr}

theorem Runs.level (first : Runs .signed ws [e] ws') (rest : Runs (.chain k e) ws' es ws'') :
    Runs (.level k) ws es ws'' := by
  intro tokens h
  obtain ⟨e, behind, found, eq, left⟩ := first tokens h
  cases eq
  obtain ⟨e', behind', chained, eq, left'⟩ := rest behind.1 left
  refine ⟨e', ⟨behind'.1, by omega⟩, ?_, eq, left'⟩
  rw [Formula.level, found]
  dsimp only
  rw [chained]

theorem runs_stop (follows : Follows k ws) : Runs (.chain k e) ws [e] ws := by
  intro tokens h
  refine ⟨e, ⟨tokens, Nat.le_refl _⟩, ?_, rfl, h⟩
  cases tokens with
  | nil => rw [chain.eq_def]
  | cons t after =>
    rw [chain.eq_def]
    dsimp only
    cases spelled : t.operator? with
    | none => rfl
    | some op =>
      rw [operator?_eq_some] at spelled
      rw [words, List.map_cons, spelled] at h
      exact if_pos (follows op _ h.symm)

theorem Runs.operator {op : Operator} (tight : k ≤ op.level)
    (second : Runs (.level (op.level + 1)) ws [e'] ws')
    (rest : Runs (.chain k (.binary op e e')) ws' es ws'') :
    Runs (.chain k e) (Word.plain (.operator op) :: ws) es ws'' := by
  intro tokens h
  obtain ⟨t, after, rfl, spelled, h⟩ := exists_of_words h
  obtain ⟨e', behind, found, eq, left⟩ := second after h
  cases eq
  obtain ⟨whole, behind', chained, eq, left'⟩ := rest behind.1 left
  refine ⟨whole, ⟨behind'.1, by simp only [List.length_cons]; omega⟩, ?_, eq, left'⟩
  rw [chain.eq_def]
  simp only [operator?_eq_some.2 spelled, if_neg (Nat.not_lt.2 tight), found]
  rw [chained]

theorem Runs.sign {sign : Sign} (operand : Runs .signed ws [e] ws') :
    Runs .signed (Word.ofSign sign :: ws) [.unary sign e] ws' := by
  intro tokens h
  obtain ⟨t, after, rfl, spelled, h⟩ := exists_of_words h
  obtain ⟨e, rest, found, eq, left⟩ := operand after h
  cases eq
  refine ⟨_, ⟨rest.1, by simp only [List.length_cons]; omega⟩, ?_, rfl, left⟩
  rw [signed.eq_def]
  simp only [sign?_eq_some.2 spelled, found]

theorem Runs.unsigned (head : ∃ w more, ws = w :: more ∧ w.isOperand = true)
    (operand : Runs .primary ws [e] ws') :
    Runs .signed ws [e] ws' := by
  intro tokens h
  obtain ⟨w, more, start, isOperand⟩ := head
  obtain ⟨t, after, rfl, rfl, -⟩ := exists_of_words (h.trans start)
  obtain ⟨e, rest, found, eq, left⟩ := operand _ h
  refine ⟨e, rest, ?_, eq, left⟩
  -- The first word starts an operand, and neither sign does.
  have none : t.sign? = none := by
    rw [Option.eq_none_iff_forall_not_mem]
    intro sign spelled
    rw [sign?_eq_some.1 spelled] at isOperand
    cases sign <;> cases isOperand
  rw [signed.eq_def]
  simp only [none, found]

/-- What a word is on its own is read from its token alone. -/
theorem primary_of_tree? {t : Token} (spells : t.word.tree? = some e) (rest : List Token) :
    ∃ fewer, primary (t :: rest) = .ok (e, ⟨rest, fewer⟩) := by
  refine ⟨by simp, ?_⟩
  obtain ⟨kind, s, offset⟩ := t
  rw [primary.eq_def]
  cases kind <;> simp only [Word.tree?, Token.word, Token.Kind.keepsText] at spells ⊢ <;>
    cases spells <;> rfl

theorem runs_atom {w : Word} (spells : w.tree? = some e) : Runs .primary (w :: ws) [e] ws := by
  intro tokens h
  obtain ⟨t, after, rfl, rfl, left⟩ := exists_of_words h
  obtain ⟨fewer, read⟩ := primary_of_tree? spells after
  exact ⟨e, ⟨after, fewer⟩, read, rfl, left⟩

theorem Runs.parentheses (inner : Runs (.level 0) ws [e] (Word.plain .rightParen :: ws')) :
    Runs .primary (Word.plain .leftParen :: ws) [e] ws' := by
  intro tokens h
  obtain ⟨⟨kind, s, offset⟩, after, rfl, opened, h⟩ := exists_of_words h
  obtain ⟨e, ⟨rest, fewer⟩, found, eq, left⟩ := inner after h
  obtain ⟨t, rest, rfl, closed, left⟩ := exists_of_words left
  have shorter : rest.length < after.length := Nat.lt_of_succ_lt fewer
  cases eq
  cases kind_of_word opened
  refine ⟨_, ⟨rest, by simp only [List.length_cons]; omega⟩, ?_, rfl, left⟩
  rw [primary.eq_def]
  simp only [found, close, kind_of_word closed, if_true]

theorem Runs.call {s : String} (args : Runs .call ws es ws') :
    Runs .primary (⟨.function, s⟩ :: Word.plain .leftParen :: ws)
    [.call (Text.latinUpper s) es] ws' := by
  intro tokens h
  obtain ⟨⟨kind, s', offset⟩, after, rfl, named, behind⟩ := exists_of_words h
  obtain ⟨t, after, rfl, opened, left⟩ := exists_of_words behind
  cases kind_of_word named
  cases congrArg Word.text named
  obtain ⟨rest, found, left⟩ := args after left t.offset
  refine ⟨_, ⟨rest.1, by simp only [List.length_cons]; omega⟩, ?_, rfl, left⟩
  rw [primary.eq_def]
  simp only [kind_of_word opened, if_true, found]

theorem runs_noArguments : Runs .call (Word.plain .rightParen :: ws) [] ws := by
  intro tokens h opening
  obtain ⟨t, after, rfl, closed, h⟩ := exists_of_words h
  refine ⟨⟨after, by simp⟩, ?_, h⟩
  rw [Formula.call.eq_def]
  simp only [kind_of_word closed, if_true]

theorem Runs.someArguments (head : ∃ w more, ws = w :: more ∧ w.starts = true)
    (args : Runs .arguments ws es ws') :
    Runs .call ws es ws' := by
  intro tokens h opening
  obtain ⟨w, more, start, starts⟩ := head
  obtain ⟨t, after, rfl, rfl, -⟩ := exists_of_words (h.trans start)
  obtain ⟨rest, found, left⟩ := args _ h opening
  refine ⟨rest, ?_, left⟩
  -- The first word starts an argument, so it is not the parenthesis that closes the call.
  have others : t.kind ≠ .rightParen := by
    intro closed
    rw [word_of_kind closed rfl] at starts
    cases starts
  rw [Formula.call.eq_def]
  dsimp only
  rw [if_neg others, found]

theorem Runs.last (arg : Runs (.level 0) ws [e] (Word.plain .rightParen :: ws')) :
    Runs .arguments ws [e] ws' := by
  intro tokens h opening
  obtain ⟨e, ⟨rest, fewer⟩, found, eq, left⟩ := arg tokens h
  obtain ⟨t, rest, rfl, closed, left⟩ := exists_of_words left
  have shorter : rest.length < tokens.length := Nat.lt_of_succ_lt fewer
  cases eq
  refine ⟨⟨rest, shorter⟩, ?_, left⟩
  rw [arguments, found]
  simp only [kind_of_word closed, close, if_true]
  rfl

theorem Runs.next (arg : Runs (.level 0) ws [e] (Word.plain .comma :: ws'))
    (more : Runs .arguments ws' es ws'') :
    Runs .arguments ws (e :: es) ws'' := by
  intro tokens h opening
  obtain ⟨e, ⟨rest, fewer⟩, found, eq, left⟩ := arg tokens h
  obtain ⟨t, rest, rfl, comma, left⟩ := exists_of_words left
  have shorter : rest.length < tokens.length := Nat.lt_of_succ_lt fewer
  cases eq
  obtain ⟨rest', others, left'⟩ := more rest left opening
  refine ⟨⟨rest'.1, by omega⟩, ?_, left'⟩
  rw [arguments, found]
  simp only [kind_of_word comma, if_true, others]

end Runs

/-- What the rules derive the parser returns. -/
theorem Reads.runs {phrase : Phrase} {ws ws' : List Word} {es : List Expr}
    (reads : Reads phrase ws es ws') :
    Runs phrase ws es ws' := by
  induction reads with
  | level _ _ first rest => exact first.level rest
  | stop follows => exact runs_stop follows
  | operator tight _ _ second rest => exact second.operator tight rest
  | sign _ operand => exact operand.sign
  | unsigned reads operand => exact operand.unsigned reads.head
  | atom spells => exact runs_atom spells
  | parentheses _ inner => exact inner.parentheses
  | call _ args => exact args.call
  | noArguments => exact runs_noArguments
  | someArguments reads args => exact args.someArguments reads.head
  | last _ arg => exact arg.last
  | next _ _ arg more => exact arg.next more

/-- Tokens spell a tree if their words do, up to the end of the formula. -/
theorem ofTokens_eq_ok_iff {tokens : List Token} {e : Expr} :
    ofTokens tokens = .ok e ↔
      Reads (.level 0) (words tokens) [e] [] ∨
      ∃ more, Reads (.level 0) (words tokens) [e] (Word.plain .eof :: more) := by
  unfold ofTokens
  constructor
  · intro h
    split at h
    next => cases h
    next e' fewer found =>
      cases h
      exact .inl (level_sound found)
    next e' t rest fewer found =>
      split at h
      next last =>
        cases h
        refine .inr ⟨words rest, ?_⟩
        have read := level_sound found
        rwa [words, words, List.map_cons, word_of_kind last rfl] at read
      next => cases h
  -- Both ways to end are kept apart: no token is left, or the one that marks the end.
  · rintro (reads | ⟨more, reads⟩)
    · obtain ⟨e', ⟨rest, fewer⟩, found, eq, left⟩ := reads.runs tokens rfl
      cases eq
      cases List.map_eq_nil_iff.1 left
      rw [found]
    · obtain ⟨e', ⟨rest, fewer⟩, found, eq, left⟩ := reads.runs tokens rfl
      cases eq
      obtain ⟨t, rest, rfl, last, -⟩ := exists_of_words left
      rw [found]
      exact if_pos (kind_of_word last)

/-! ## Words that join -/

section Joins

variable {j k : Nat} {ws vs more : List Word} {e lhs rhs : Expr}

theorem Follows.mono (follows : Follows j ws) (le : j ≤ k) : Follows k ws :=
  fun op more h => Nat.lt_of_lt_of_le (follows op more h) le

theorem follows_of_kind {w : Word} (other : ∀ op, w.kind ≠ .operator op) : Follows k (w :: ws) := by
  intro op more h
  cases h
  exact absurd rfl (other op)

theorem follows_rightParen : Follows k (Word.plain .rightParen :: ws) := follows_of_kind nofun

theorem follows_comma : Follows k (Word.plain .comma :: ws) := follows_of_kind nofun

theorem follows_eof : Follows k (Word.plain .eof :: ws) := follows_of_kind nofun

theorem follows_operator {op : Operator} :
    Follows k (Word.plain (.operator op) :: ws) ↔ op.level < k := by
  constructor
  · exact fun follows => follows op ws rfl
  · intro lt op' more h
    cases h
    exact lt

/-- Beyond the levels there are no operators. -/
theorem follows_levels (le : Operator.levels ≤ k) : Follows k ws :=
  fun op _ _ => Nat.lt_of_lt_of_le op.level_lt_levels le

/-- Words spell a tree where an operand of a level may stand, also where operators go on behind
it, as long as those do not bind tighter than the level. -/
def Joins (k : Nat) (ws : List Word) (e : Expr) : Prop :=
  ∀ j ≤ k, ∀ more es rest, Follows (k + 1) more → Reads (.chain j e) more es rest →
    Reads (.level j) (ws ++ more) es rest

theorem Joins.level (joins : Joins k ws e) (follows : Follows k more) :
    Reads (.level k) (ws ++ more) [e] more :=
  joins k (Nat.le_refl k) more [e] more (follows.mono (Nat.le_succ k)) (.stop follows)

/-- What joins at a level joins at the looser ones. -/
theorem Joins.mono (joins : Joins k ws e) (le : j ≤ k) : Joins j ws e :=
  fun i hi more es rest follows => joins i (Nat.le_trans hi le) more es rest
    (follows.mono (Nat.succ_le_succ le))

theorem joins_signed :
    Joins Operator.levels ws e ↔ ∀ more, Reads .signed (ws ++ more) [e] more := by
  constructor
  · intro joins more
    have follows : Follows Operator.levels more := follows_levels (Nat.le_refl _)
    cases joins.level follows with
    | level first rest =>
      cases rest with
      | stop => exact first
      | @operator _ op _ _ _ _ _ _ tight => exact absurd op.level_lt_levels (Nat.not_lt.2 tight)
  · exact fun reads j _ more es rest _ chain => .level (reads more) chain

theorem joins_of_tree? {w : Word} (spells : w.tree? = some e) : Joins Operator.levels [w] e :=
  joins_signed.2 fun _ => .unsigned (.atom spells)

theorem Joins.parentheses (joins : Joins 0 ws e) :
    Joins Operator.levels ([Word.plain .leftParen] ++ ws ++ [Word.plain .rightParen]) e := by
  rw [joins_signed]
  intro more
  have inner : Reads (.level 0) (ws ++ Word.plain .rightParen :: more) [e] _ :=
    joins.level follows_rightParen
  simpa using Reads.unsigned (.parentheses inner)

theorem Joins.sign {sign : Sign} (joins : Joins Operator.levels ws e) :
    Joins Operator.levels ([Word.ofSign sign] ++ ws) (.unary sign e) :=
  joins_signed.2 fun more => .sign (joins_signed.1 joins more)

theorem Joins.operator {op : Operator} (left : Joins op.level ws lhs)
    (right : Joins (op.level + 1) vs rhs) :
    Joins op.level (ws ++ [Word.plain (.operator op)] ++ vs) (.binary op lhs rhs) := by
  intro j le more es rest follows chain
  have behind : Follows (op.level + 1) (Word.plain (.operator op) :: (vs ++ more)) :=
    follows_operator.2 (Nat.lt_succ_self _)
  have whole := left j le _ es rest behind (.operator le (right.level follows) chain)
  simpa using whole

end Joins

end Formula

end Spreadsheet
