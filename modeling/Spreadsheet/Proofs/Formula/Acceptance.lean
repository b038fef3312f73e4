import Mathlib.Data.List.Basic
import Spreadsheet.Proofs.Formula.Derivation
import Spreadsheet.Proofs.Formula.Layout

/-!
# `Proofs/Formula/Acceptance.lean` — the parser accepts what the grammar derives

The grammar has layers and the parser has none, it climbs. What is read is derived all the same
(`Reads.derived`): the operand that was read so far is kept as a derivation of a layer that the
next operator asks for, and it is one because the operators that are left for later do not bind
tighter. What is derived is read (`Derivation.reads`), since words are put together as in the
printed text of a tree. The tokens of a text end with the one that marks the end, and with no
other (`Token.scan_ends`), so the whole text is derived or none of it is
(`parser_accepts_grammar`).

In the other direction the two agree rule by rule, since a derivation of a looser layer is read by
the same loop with a lower bound.
-/

set_option autoImplicit false

namespace Spreadsheet

namespace Formula

/-! ## What is read is derived -/

/-- Reading an expression stops where no operator comes that belongs to it. -/
theorem Reads.follows {phrase : Phrase} {ws ws' : List Word} {es : List Expr}
    (reads : Reads phrase ws es ws') :
    match phrase with
    | .level k | .chain k _ => Follows k ws'
    | _ => True := by
  induction reads with
  | level _ _ _ ih | operator _ _ _ _ ih => exact ih
  | stop follows => exact follows
  | _ => trivial

section Derived

variable {j k : Nat} {ws ws' ws'' : List Word} {e e' : Expr} {es : List Expr}

/-- A derivation has the words that were read at its leaves. What a chain goes on with is a
derivation too, of a layer that the next operator does not bind tighter than. -/
def Derived (phrase : Phrase) (ws : List Word) (es : List Expr) (ws' : List Word) : Prop :=
  match phrase with
  | .level k =>
    k ≤ Operator.levels → ∃ d : Derivation (.expression k), ws = d.yield ++ ws' ∧ es = [d.tree]
  | .chain k first =>
    ∀ j, k ≤ j → j ≤ Operator.levels → Follows (j + 1) ws → ∀ d : Derivation (.expression j),
      d.tree = first → ∃ d' : Derivation (.expression k), d.yield ++ ws = d'.yield ++ ws' ∧
      es = [d'.tree]
  | .signed => ∃ d : Derivation .signed, ws = d.yield ++ ws' ∧ es = [d.tree]
  | .primary => ∃ d : Derivation .primary, ws = d.yield ++ ws' ∧ es = [d.tree]
  | .call => ∃ d : Derivation .call, ws = d.yield ++ Word.plain .rightParen :: ws' ∧ d.tree = es
  | .arguments =>
    ∃ d : Derivation .arguments, ws = d.yield ++ Word.plain .rightParen :: ws' ∧ d.tree = es

/-- An expression is one of the looser layers too. -/
theorem Derivation.exists_looser (le : k ≤ j) (loose : j ≤ Operator.levels)
    (d : Derivation (.expression j)) :
    ∃ d' : Derivation (.expression k), d'.yield = d.yield ∧ d'.tree = d.tree := by
  induction le with
  | refl => exact ⟨d, rfl, rfl⟩
  | step _ ih => exact ih (Nat.le_of_succ_le loose) (.tighter loose d)

theorem Derived.level (first : Derived .signed ws [e] ws')
    (rest : Derived (.chain k e) ws' es ws'') :
    Derived (.level k) ws es ws'' := by
  intro loose
  obtain ⟨d, rfl, same⟩ := first
  cases same
  -- An operand is of the tightest layer, and no operator binds tighter than that.
  exact rest Operator.levels loose (Nat.le_refl _) (follows_levels (Nat.le_succ _)) (.operand d) rfl

theorem derived_stop : Derived (.chain k e) ws [e] ws := by
  intro j le loose follows d spells
  obtain ⟨d', yield, tree⟩ := d.exists_looser le loose
  exact ⟨d', by rw [yield], by rw [tree, spells]⟩

theorem Derived.operator {op : Operator} (tight : k ≤ op.level) (stops : Follows (op.level + 1) ws')
    (second : Derived (.level (op.level + 1)) ws [e'] ws')
    (rest : Derived (.chain k (.binary op e e')) ws' es ws'') :
    Derived (.chain k e) (Word.plain (.operator op) :: ws) es ws'' := by
  intro j le loose follows d spells
  -- The operator does not bind tighter than what was read so far, which is therefore a left
  -- operand of it.
  have here : op.level ≤ j := Nat.le_of_lt_succ (follows_operator.1 follows)
  obtain ⟨lhs, yield, tree⟩ := d.exists_looser here loose
  obtain ⟨rhs, rfl, same⟩ := second op.level_lt_levels
  cases same
  obtain ⟨d', whole, spelled⟩ :=
    rest op.level tight (Nat.le_of_lt op.level_lt_levels) stops (.operation op rfl lhs rhs)
    (by rw [Derivation.tree, tree, spells])
  refine ⟨d', ?_, spelled⟩
  rw [← whole, Derivation.yield, yield]
  simp

theorem Derived.sign {sign : Sign} (operand : Derived .signed ws [e] ws') :
    Derived .signed (Word.ofSign sign :: ws) [.unary sign e] ws' := by
  obtain ⟨d, rfl, same⟩ := operand
  cases same
  exact ⟨.sign sign d, rfl, rfl⟩

theorem Derived.parentheses (inner : Derived (.level 0) ws [e] (Word.plain .rightParen :: ws')) :
    Derived .primary (Word.plain .leftParen :: ws) [e] ws' := by
  obtain ⟨d, rfl, same⟩ := inner (Nat.zero_le _)
  exact ⟨.parentheses d, by simp [Derivation.yield], same⟩

theorem Derived.call {name : String} (args : Derived .call ws es ws') :
    Derived .primary (⟨.function, name⟩ :: Word.plain .leftParen :: ws)
    [.call (Text.latinUpper name) es] ws' := by
  obtain ⟨d, rfl, rfl⟩ := args
  exact ⟨.call name d, by simp [Derivation.yield], rfl⟩

theorem Derived.someArguments (args : Derived .arguments ws es ws') : Derived .call ws es ws' := by
  obtain ⟨d, rfl, rfl⟩ := args
  exact ⟨.someArguments d, rfl, rfl⟩

theorem Derived.last (arg : Derived (.level 0) ws [e] (Word.plain .rightParen :: ws')) :
    Derived .arguments ws [e] ws' := by
  obtain ⟨d, rfl, same⟩ := arg (Nat.zero_le _)
  exact ⟨.lastArgument d, rfl, same.symm⟩

theorem Derived.next (arg : Derived (.level 0) ws [e] (Word.plain .comma :: ws'))
    (more : Derived .arguments ws' es ws'') :
    Derived .arguments ws (e :: es) ws'' := by
  obtain ⟨d, rfl, same⟩ := arg (Nat.zero_le _)
  obtain ⟨d', rfl, rfl⟩ := more
  cases same
  exact ⟨.moreArguments d d', by simp [Derivation.yield], rfl⟩

/-- What is read is derived. -/
theorem Reads.derived {phrase : Phrase} (reads : Reads phrase ws es ws') :
    Derived phrase ws es ws' := by
  induction reads with
  | level _ _ first rest => exact first.level rest
  | stop => exact derived_stop
  -- What is read on behind an operator starts from the operation as its first operand.
  | operator tight second _ ih rest => exact ih.operator tight second.follows rest
  | sign _ operand => exact operand.sign
  | unsigned _ operand =>
    obtain ⟨d, yield, same⟩ := operand
    exact ⟨.unsigned d, yield, same⟩
  | @atom w ws e spells => exact ⟨.atom w e spells, rfl, rfl⟩
  | parentheses _ inner => exact inner.parentheses
  | call _ args => exact args.call
  | noArguments => exact ⟨.noArguments, rfl, rfl⟩
  | someArguments _ args => exact args.someArguments
  | last _ arg => exact arg.last
  | next _ _ arg more => exact arg.next more

end Derived

/-! ## What is derived is read -/

/-- What is derived is read, whatever stands behind it. -/
theorem Derivation.reads {n : Nonterminal} (d : Derivation n) :
    match n, d with
    | .expression k, d => Joins k d.yield d.tree
    | .signed, d | .primary, d => Joins Operator.levels d.yield d.tree
    | .call, d => ∀ more, Reads .call (d.yield ++ Word.plain .rightParen :: more) d.tree more
    | .arguments, d =>
      ∀ more, Reads .arguments (d.yield ++ Word.plain .rightParen :: more) d.tree more := by
  induction d with
  | operation op here lhs rhs ih ih' =>
    subst here
    exact ih.operator ih'
  | tighter loose d ih => exact ih.mono (Nat.le_succ _)
  | operand d ih | unsigned d ih => exact ih
  | sign s d ih => exact ih.sign
  | atom w e spells => exact joins_of_tree? spells
  | parentheses d ih => exact ih.parentheses
  -- Inside the parentheses anything may follow, so the induction says what is read up to the
  -- closing one.
  | call name args ih =>
    refine joins_signed.2 fun more => ?_
    have reads : Reads .signed _ _ _ := .unsigned (.call (s := name) (ih more))
    simpa [yield, tree] using reads
  | noArguments => exact fun more => .noArguments
  | someArguments args ih => exact fun more => .someArguments (ih more)
  | lastArgument d ih => exact fun more => .last (ih.level follows_rightParen)
  | moreArguments d args ih ih' =>
    intro more
    have first : Reads _ (d.yield ++ Word.plain .comma ::
      (args.yield ++ Word.plain .rightParen :: more)) _ _ :=
      ih.level follows_comma
    simpa [yield, tree] using Reads.next first (ih' more)

end Formula

/-! ## The tokens of a text -/

/-- The tokens of a text end with the end of the formula, which is not among the others. -/
theorem Token.scan_ends {offset : Nat} {s : List Char} {tokens : List Token}
    (h : scanFrom offset s = .ok tokens) :
    ∃ front last, tokens = front ++ [last] ∧ last.kind = .eof ∧ ∀ t ∈ front, t.kind ≠ .eof := by
  obtain ⟨front, rfl, others⟩ := (scanFrom_eq_ok_iff.1 h).ends
  exact ⟨front, _, rfl, rfl, fun t ht => (others t ht).1⟩

namespace Formula

/-! ## Acceptance -/

/-- The parser returns the tree of a derivation of the words in front of the end. -/
theorem ofTokens_eq_ok_iff_derived {front : List Token} {last : Token} (ends : last.kind = .eof)
    (others : ∀ t ∈ front, t.kind ≠ .eof) {e : Expr} :
    ofTokens (front ++ [last]) = .ok e ↔ ∃ d : Derivation (.expression 0), d.yield = words front ∧
    d.tree = e := by
  have split : words (front ++ [last]) = words front ++ [Word.plain .eof] := by
    simp [words, word_of_kind ends rfl]
  have notMem : Word.plain .eof ∉ words front := by
    intro last
    obtain ⟨t, ht, word⟩ := List.mem_map.1 last
    exact others t ht (kind_of_word word)
  rw [ofTokens_eq_ok_iff, split]
  constructor
  · rintro (reads | ⟨more, reads⟩) <;> obtain ⟨d, same, tree⟩ := reads.derived (Nat.zero_le _) <;>
      cases tree
    · -- A derivation cannot have taken the end of the formula in.
      rw [List.append_nil] at same
      exact absurd (same ▸ List.mem_concat_self) d.eof_notMem_yield
    · exact ⟨d, ((List.append_cons_inj_of_notMem notMem List.not_mem_nil).1 same).1.symm, rfl⟩
  · rintro ⟨d, yield, rfl⟩
    have joins : Joins 0 d.yield d.tree := d.reads
    exact .inr ⟨[], yield ▸ joins.level follows_eof⟩

/-- **The parser accepts the grammar.** The tokens of a text end with the one that marks the end,
and with no other. They are accepted if the grammar derives the words in front of that one. There
is a single derivation then, and what is returned is the tree that it spells. -/
theorem parser_accepts_grammar {source : String} {tokens : List Token}
    (scanned : Token.scan source = .ok tokens) :
    ∃ front last, tokens = front ++ [last] ∧ last.kind = .eof ∧ (∀ t ∈ front, t.kind ≠ .eof) ∧
      ((∃ e, ofTokens tokens = .ok e) ↔ ∃ d : Derivation (.expression 0), d.yield = words front) ∧
      ∀ d : Derivation (.expression 0), d.yield = words front →
        ofTokens tokens = .ok d.tree ∧ ∀ d' : Derivation (.expression 0), d'.yield = words front →
        d' = d := by
  obtain ⟨front, last, rfl, ends, others⟩ := Token.scan_ends scanned
  refine ⟨front, last, rfl, ends, others, ⟨?_, ?_⟩, fun d yield => ⟨?_, fun d' yield' => ?_⟩⟩
  · rintro ⟨e, parsed⟩
    obtain ⟨d, yield, -⟩ := (ofTokens_eq_ok_iff_derived ends others).1 parsed
    exact ⟨d, yield⟩
  · rintro ⟨d, yield⟩
    exact ⟨d.tree, (ofTokens_eq_ok_iff_derived ends others).2 ⟨d, yield, rfl⟩⟩
  · exact (ofTokens_eq_ok_iff_derived ends others).2 ⟨d, yield, rfl⟩
  · exact Derivation.unambiguous (yield'.trans yield.symm)

namespace Derivation

/-- An operand is an expression. -/
def ofSigned (d : Derivation .signed) : Derivation (.expression 0) :=
  .tighter (by decide) (.tighter (by decide)
    (.tighter (by decide) (.tighter (by decide) (.tighter (by decide) d.operand))))

/-- Two powers, of which the first has a sign in front: -a^b^f((c)). -/
def powers : Derivation (.expression 0) :=
  let name (s : String) : Derivation .signed := .unsigned (.atom ⟨.name, s⟩ _ rfl)
  let called : Derivation .primary :=
    .call "f" (.someArguments
      (.lastArgument (ofSigned (.unsigned (.parentheses (ofSigned (name "c")))))))
  .tighter (by decide) (.tighter (by decide) (.tighter (by decide) (.tighter (by decide)
    (.operation .power rfl
      (.operation .power rfl (.tighter (by decide) (.operand (.sign .minus (name "a"))))
        (.operand (name "b")))
      (.operand (.unsigned called))))))

end Derivation

/-- The power groups to the left, and a sign in front of it belongs to its first operand. -/
theorem parser_accepts_grammar_of_powers : ∃ tokens, Token.scan "-a^b^f((c))" = .ok tokens ∧
    ofTokens tokens =
      .ok (.binary .power (.binary .power (.unary .minus (.name "a")) (.name "b"))
        (.call "F" [.name "c"])) ∧
    ∃ d : Derivation (.expression 0), d.yield = words tokens.dropLast ∧
      ∀ d' : Derivation (.expression 0), d'.yield = words tokens.dropLast → d' = d := by
  have scanned : Token.scan "-a^b^f((c))" = .ok [⟨.operator .subtract, "-", 0⟩, ⟨.name, "a", 1⟩,
      ⟨.operator .power, "^", 2⟩, ⟨.name, "b", 3⟩, ⟨.operator .power, "^", 4⟩, ⟨.function, "f", 5⟩,
      ⟨.leftParen, "(", 6⟩,
      ⟨.leftParen, "(", 7⟩, ⟨.name, "c", 8⟩, ⟨.rightParen, ")", 9⟩, ⟨.rightParen, ")", 10⟩,
      ⟨.eof, "", 11⟩] := by
    decide +kernel
  obtain ⟨front, last, split, -, -, -, derived⟩ := parser_accepts_grammar scanned
  have front := congrArg List.dropLast split
  rw [List.dropLast_concat] at front
  obtain ⟨parsed, unique⟩ := derived .powers (by rw [← front]; rfl)
  exact ⟨_, scanned, parsed, .powers, rfl, fun d' yield => unique d' (by rw [yield, front])⟩

end Formula

end Spreadsheet
