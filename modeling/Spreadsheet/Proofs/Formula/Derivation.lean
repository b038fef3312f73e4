import Spreadsheet.Proofs.Formula.Grammar

/-!
# `Proofs/Formula/Derivation.lean` — the grammar of formulas

The grammar is stratified: there is a layer of expressions for each level of operators (`strata`
lists them), each groups its operators to the left, and below the tightest stand operands with
signs in front, and the primaries. A derivation is a tree of its rules. It has a yield, which are
the words at its leaves, and it spells a tree, in which parentheses, layers and the case of
function names are gone.

Words have one derivation at most (`Derivation.unambiguous`). For that an induction over
derivations has to say something of words that go on behind the yield, and since a layer groups to
the left, the yield of one expression may go on to be that of a longer one. So expressions are
compared up to operators that are read on (`Derivation.Extends`), and where no operator follows
they are the same.
-/

set_option autoImplicit false

namespace Spreadsheet

namespace Formula

/-! ## Levels -/

/-- The levels of the grammar from the loosest to the tightest, and the operators of each:
comparisons, joining, sums and differences, products and quotients, and powers. -/
def strata : List (List Operator) :=
  [[.equal, .notEqual, .less, .greater, .lessEqual, .greaterEqual], [.concat], [.add, .subtract],
    [.multiply, .divide], [.power]]

/-- There are as many levels as the grammar has layers for. -/
theorem length_strata : strata.length = Operator.levels := rfl

/-- An operator is of a level just if it is listed there. So the rule `Derivation.operation` is, for
each level, the rule of the operators that are listed for it. -/
theorem level_eq_iff {op : Operator} {k : Nat} :
    op.level = k ↔ ∃ ops, strata[k]? = some ops ∧ op ∈ ops := by
  constructor
  · rintro rfl
    cases op <;> exact ⟨_, rfl, by decide⟩
  · rintro ⟨ops, listed, mem⟩
    have few : k < 5 := (List.getElem?_eq_some_iff.1 listed).1
    have levels : ∀ k : Fin 5, ∀ op ∈ strata[k.val]?.getD [], op.level = k.val := by decide
    have here := levels ⟨k, few⟩ op
    rw [listed] at here
    exact here mem

/-! ## Derivations -/

/-- What can be derived. -/
inductive Nonterminal where
  /-- An expression whose operators bind at least as tightly as a level, if not in parentheses. -/
  | expression (k : Nat)
  | signed
  | primary
  /-- What stands between the parentheses of a call. -/
  | call
  | arguments

/-- What a nonterminal spells. -/
abbrev Nonterminal.Tree : Nonterminal → Type
  | .expression _ | .signed | .primary => Expr
  | .call | .arguments => List Expr

/-- A derivation by the rules of the grammar. -/
inductive Derivation : Nonterminal → Type where
  /-- An operator of a level has an expression of its level on the left, and a tighter one on the
  right. Which operators are of which level is listed in `strata`. -/
  | operation {k : Nat} (op : Operator) (here : op.level = k) (lhs : Derivation (.expression k))
      (rhs : Derivation (.expression (k + 1))) : Derivation (.expression k)
  /-- An expression of a tighter level is one of the looser levels, down to operands without
  operators. -/
  | tighter {k : Nat} (loose : k < Operator.levels) (d : Derivation (.expression (k + 1))) :
      Derivation (.expression k)
  | operand (d : Derivation .signed) : Derivation (.expression Operator.levels)
  /-- Signs can be repeated. -/
  | sign (s : Sign) (d : Derivation .signed) : Derivation .signed
  | unsigned (d : Derivation .primary) : Derivation .signed
  /-- A literal, a reference or a name. -/
  | atom (w : Word) (e : Expr) (spells : w.tree? = some e) : Derivation .primary
  | parentheses (d : Derivation (.expression 0)) : Derivation .primary
  /-- A call of a function by its name, with or without arguments. -/
  | call (name : String) (args : Derivation .call) : Derivation .primary
  | noArguments : Derivation .call
  | someArguments (args : Derivation .arguments) : Derivation .call
  /-- There is no comma behind the last argument. -/
  | lastArgument (d : Derivation (.expression 0)) : Derivation .arguments
  | moreArguments (d : Derivation (.expression 0)) (more : Derivation .arguments) :
      Derivation .arguments

namespace Derivation

/-- The words that are derived. -/
def yield : {n : Nonterminal} → Derivation n → List Word
  | _, .operation op _ lhs rhs => lhs.yield ++ [Word.plain (.operator op)] ++ rhs.yield
  | _, .tighter _ d => d.yield
  | _, .operand d => d.yield
  | _, .sign s d => [Word.ofSign s] ++ d.yield
  | _, .unsigned d => d.yield
  | _, .atom w _ _ => [w]
  | _, .parentheses d => [Word.plain .leftParen] ++ d.yield ++ [Word.plain .rightParen]
  | _, .call name args =>
    [⟨.function, name⟩, Word.plain .leftParen] ++ args.yield ++ [Word.plain .rightParen]
  | _, .noArguments => []
  | _, .someArguments args => args.yield
  | _, .lastArgument d => d.yield
  | _, .moreArguments d more => d.yield ++ [Word.plain .comma] ++ more.yield

/-- The tree that is spelled. -/
def tree : {n : Nonterminal} → Derivation n → n.Tree
  | _, .operation op _ lhs rhs => .binary op lhs.tree rhs.tree
  | _, .tighter _ d => d.tree
  | _, .operand d => d.tree
  | _, .sign s d => .unary s d.tree
  | _, .unsigned d => d.tree
  | _, .atom _ e _ => e
  | _, .parentheses d => d.tree
  | _, .call name args => .call (Text.latinUpper name) args.tree
  | _, .noArguments => []
  | _, .someArguments args => args.tree
  | _, .lastArgument d => [d.tree]
  | _, .moreArguments d more => d.tree :: more.tree

/-- A derivation starts with a word that an operand can start with. Only between the parentheses
of a call there may be none. -/
theorem exists_start {n : Nonterminal} (d : Derivation n) :
    match n with
    | .call => True
    | .primary => ∃ w more, d.yield = w :: more ∧ w.isOperand = true
    | _ => ∃ w more, d.yield = w :: more ∧ w.starts = true := by
  induction d with
  | operation op _ lhs rhs ih =>
    obtain ⟨w, more, start, starts⟩ := ih
    exact ⟨w, _, by rw [yield, start, List.append_assoc, List.cons_append], starts⟩
  | tighter _ d ih | operand d ih | lastArgument d ih => exact ih
  | sign s d => exact ⟨_, _, rfl, by cases s <;> rfl⟩
  | unsigned d ih =>
    obtain ⟨w, more, start, operand⟩ := ih
    exact ⟨w, more, start, by simp [Word.starts, operand]⟩
  | atom w e spells => exact ⟨w, [], rfl, by simp [Word.isOperand, spells]⟩
  | parentheses | call => exact ⟨_, _, rfl, rfl⟩
  | noArguments | someArguments => trivial
  | moreArguments d more ih =>
    obtain ⟨w, rest, start, starts⟩ := ih
    exact ⟨w, _, by rw [yield, start, List.append_assoc, List.cons_append], starts⟩

/-- No derivation goes beyond the end of the formula. -/
theorem eof_notMem_yield {n : Nonterminal} (d : Derivation n) : Word.plain .eof ∉ d.yield := by
  induction d with
  | operation op _ lhs rhs ih ih' => simp [yield, ih, ih']
  | tighter _ d ih | operand d ih | unsigned d ih | someArguments d ih | lastArgument d ih =>
    exact ih
  | sign s d ih => cases s <;> simp [yield, Word.ofSign, ih]
  | atom w e spells =>
    intro last
    rw [← List.mem_singleton.1 last] at spells
    cases spells
  | noArguments => exact List.not_mem_nil
  | parentheses d ih | call _ d ih => simp [yield, ih]
  | moreArguments d more ih ih' => simp [yield, ih, ih']

/-! ## Reading on -/

/-- What a derivation becomes when operators of its level are read on, from some words to the rest
of them. -/
inductive Extends {k : Nat} :
    Derivation (.expression k) → List Word → Derivation (.expression k) → List Word → Prop where
  | refl (d : Derivation (.expression k)) (ws : List Word) : Extends d ws d ws
  | step {op : Operator} {d d' : Derivation (.expression k)}
      {rhs : Derivation (.expression (k + 1))} {ws ws' : List Word}
      (here : op.level = k) (more : Extends (.operation op here d rhs) ws d' ws') :
      Extends d (Word.plain (.operator op) :: (rhs.yield ++ ws)) d' ws'

section Extends

variable {k : Nat} {op : Operator} {d d' : Derivation (.expression k)}
    {rhs : Derivation (.expression (k + 1))}
  {ws ws' : List Word}

theorem Extends.snoc (here : op.level = k)
    (more : Extends d ws d' (Word.plain (.operator op) :: (rhs.yield ++ ws'))) :
    Extends d ws (.operation op here d' rhs) ws' := by
  generalize start : Word.plain (.operator op) :: (rhs.yield ++ ws') = rest at more
  induction more with
  | refl =>
    subst start
    exact .step here (.refl _ _)
  | step here' _ ih => exact .step here' (ih start)

/-- Nothing is read on where no operator of the level comes. -/
theorem Extends.eq_of_follows (more : Extends d ws d' ws') (follows : Follows k ws) :
    d = d' ∧ ws = ws' := by
  cases more with
  | refl => exact ⟨rfl, rfl⟩
  | step here => exact absurd (follows_operator.1 follows) (by omega)

theorem Extends.follows (more : Extends d ws d' ws') (follows : Follows (k + 1) ws') :
    Follows (k + 1) ws := by
  cases more with
  | refl => exact follows
  | step here => exact follows_operator.2 (by omega)

end Extends

/-- Every expression is read on from one of the next layer. -/
theorem exists_tighter {k : Nat} (loose : k < Operator.levels) (d' : Derivation (.expression k))
    {ws' : List Word} (follows : Follows (k + 1) ws') :
      ∃ (d : Derivation (.expression (k + 1))) (ws : List Word),
      Extends (.tighter loose d) ws d' ws' ∧ Follows (k + 1) ws ∧
      d.yield ++ ws = d'.yield ++ ws' := by
  -- The chain of operations goes down on the left, so the recursion is on left operands only.
  cases d' with
  | operation op here lhs rhs =>
    have behind : Follows (k + 1) (Word.plain (.operator op) :: (rhs.yield ++ ws')) :=
      follows_operator.2 (by omega)
    obtain ⟨d, ws, more, follows, same⟩ := exists_tighter loose lhs behind
    exact ⟨d, ws, more.snoc here, follows, by rw [same, yield]; simp⟩
  | tighter _ d => exact ⟨d, ws', .refl _ _, follows, rfl⟩
  | operand => exact absurd loose (Nat.lt_irrefl _)
termination_by sizeOf d'

/-! ## Words have one derivation at most -/

/-- Words that start with the yield of a derivation start with that of no other. Of two
expressions one may be the beginning of the other, which is then what it becomes as operators are
read on. -/
def Unique : {n : Nonterminal} → Derivation n → Prop
  | .expression k, d =>
    ∀ (d' : Derivation (.expression k)) (ws ws' : List Word), Follows (k + 1) ws →
      Follows (k + 1) ws' → d.yield ++ ws = d'.yield ++ ws' →
      Extends d ws d' ws' ∨ Extends d' ws' d ws
  | .signed, d =>
    ∀ (d' : Derivation .signed) (ws ws' : List Word), d.yield ++ ws = d'.yield ++ ws' →
      d = d' ∧ ws = ws'
  | .primary, d =>
    ∀ (d' : Derivation .primary) (ws ws' : List Word), d.yield ++ ws = d'.yield ++ ws' →
      d = d' ∧ ws = ws'
  | .call, d => ∀ (d' : Derivation .call) (ws ws' : List Word),
      d.yield ++ Word.plain .rightParen :: ws = d'.yield ++ Word.plain .rightParen :: ws' →
      d = d' ∧ ws = ws'
  | .arguments, d => ∀ (d' : Derivation .arguments) (ws ws' : List Word),
      d.yield ++ Word.plain .rightParen :: ws = d'.yield ++ Word.plain .rightParen :: ws' →
      d = d' ∧ ws = ws'

section Unique

variable {k : Nat} {op : Operator} {w : Word} {e : Expr} {name : String} {ws ws' : List Word}

/-- Where no operator follows that an expression could go on with, there is no shorter or longer
one. -/
theorem Unique.eq {d : Derivation (.expression k)} (unique : d.Unique)
    {d' : Derivation (.expression k)} (follows : Follows k ws) (follows' : Follows k ws')
    (same : d.yield ++ ws = d'.yield ++ ws') : d = d' ∧ ws = ws' := by
  obtain more | more :=
    unique d' ws ws' (follows.mono (Nat.le_succ k)) (follows'.mono (Nat.le_succ k)) same
  · exact more.eq_of_follows follows
  · obtain ⟨rfl, rfl⟩ := more.eq_of_follows follows'
    exact ⟨rfl, rfl⟩

theorem Unique.operation (here : op.level = k) {lhs : Derivation (.expression k)}
    {rhs : Derivation (.expression (k + 1))} (left : lhs.Unique) (right : rhs.Unique) :
    (Derivation.operation op here lhs rhs).Unique := by
  intro d' ws ws' follows follows' same
  have behind : Follows (k + 1) (Word.plain (.operator op) :: (rhs.yield ++ ws)) :=
    follows_operator.2 (by omega)
  -- The left operand has words in common with the other expression, so one of the two is read on
  -- to the other.
  obtain more | more := left d' _ ws' behind follows' (by simpa [yield] using same)
  · generalize start : Word.plain (.operator op) :: (rhs.yield ++ ws) = rest at more
    cases more with
    | refl =>
      subst start
      exact .inr (.step here (.refl _ _))
    | step here' more =>
      -- The first operator that is read on from the left operand is the one of the operation.
      rw [List.cons.injEq] at start
      obtain ⟨first, start⟩ := start
      cases first
      obtain ⟨rfl, rfl⟩ := right.eq follows (more.follows follows') start
      exact .inl more
  · exact .inr (more.snoc here)

theorem Unique.tighter (loose : k < Operator.levels) {d : Derivation (.expression (k + 1))}
    (unique : d.Unique) :
    (Derivation.tighter loose d).Unique := by
  intro d' ws ws' follows follows' same
  obtain ⟨d₁, ws₁, more, follows₁, same₁⟩ := exists_tighter loose d' follows'
  obtain ⟨rfl, rfl⟩ := unique.eq follows follows₁ (same.trans same₁.symm)
  exact .inl more

theorem Unique.operand {d : Derivation .signed} (unique : d.Unique) : d.operand.Unique := by
  intro d' ws ws' _ _ same
  cases d' with
  | operation op here => exact absurd op.level_lt_levels (by omega)
  | tighter loose => exact absurd loose (Nat.lt_irrefl _)
  | operand d' =>
    obtain ⟨rfl, rfl⟩ := unique d' ws ws' same
    exact .inl (.refl _ _)

/-- A sign is not taken for the start of a primary. -/
theorem sign_ne_primary {sign : Sign} {d : Derivation .primary} :
    Word.ofSign sign :: ws ≠ d.yield ++ ws' := by
  intro same
  obtain ⟨w, more, start, operand⟩ := d.exists_start
  rw [start, List.cons_append, List.cons.injEq] at same
  rw [← same.1] at operand
  cases sign <;> cases operand

theorem Unique.sign (s : Sign) {d : Derivation .signed} (unique : d.Unique) :
    (Derivation.sign s d).Unique := by
  intro d' ws ws' same
  cases d' with
  | sign s' d' =>
    simp only [yield, List.cons_append, List.nil_append, List.cons.injEq] at same
    obtain ⟨signs, rest⟩ := same
    cases Word.ofSign_injective signs
    obtain ⟨rfl, rfl⟩ := unique d' ws ws' rest
    exact ⟨rfl, rfl⟩
  | unsigned d' => exact absurd same sign_ne_primary

theorem Unique.unsigned {d : Derivation .primary} (unique : d.Unique) : d.unsigned.Unique := by
  intro d' ws ws' same
  cases d' with
  | sign s' d' => exact absurd same.symm sign_ne_primary
  | unsigned d' =>
    obtain ⟨rfl, rfl⟩ := unique d' ws ws' same
    exact ⟨rfl, rfl⟩

theorem unique_atom (spells : w.tree? = some e) : (Derivation.atom w e spells).Unique := by
  intro d' ws ws' same
  simp only [yield, List.cons_append, List.nil_append] at same
  cases d' with
  | atom w' e' spells' =>
    cases same
    cases spells.symm.trans spells'
    exact ⟨rfl, rfl⟩
  | parentheses | call =>
    cases same
    cases spells

theorem Unique.parentheses {d : Derivation (.expression 0)} (unique : d.Unique) :
    d.parentheses.Unique := by
  intro d' ws ws' same
  simp only [yield, List.cons_append, List.nil_append, List.append_assoc] at same
  -- The first word tells the rules for primaries apart, and here it is a parenthesis.
  cases d' with
  | atom w' e' spells' =>
    cases same
    cases spells'
  | parentheses d' =>
    simp only [yield, List.cons_append, List.nil_append, List.append_assoc, List.cons.injEq] at same
    obtain ⟨rfl, rest⟩ := unique.eq follows_rightParen follows_rightParen same.2
    cases rest
    exact ⟨rfl, rfl⟩
  | call =>
    simp only [yield, List.cons_append, List.cons.injEq] at same
    cases same.1

theorem Unique.call {args : Derivation .call} (unique : args.Unique) :
    (Derivation.call name args).Unique := by
  intro d' ws ws' same
  simp only [yield, List.cons_append, List.nil_append, List.append_assoc] at same
  -- A function in front rules out the atoms and the parentheses.
  cases d' with
  | atom w' e' spells' =>
    cases same
    cases spells'
  | parentheses =>
    simp only [yield, List.cons_append, List.cons.injEq] at same
    cases same.1
  | call name' args' =>
    simp only [yield, List.cons_append, List.nil_append, List.append_assoc, List.cons.injEq] at same
    obtain ⟨called, -, rest⟩ := same
    cases called
    obtain ⟨rfl, rfl⟩ := unique args' ws ws' rest
    exact ⟨rfl, rfl⟩

/-- A closing parenthesis is not taken for the start of arguments. -/
theorem rightParen_ne_arguments {args : Derivation .arguments} :
    Word.plain .rightParen :: ws ≠ args.yield ++ ws' := by
  intro same
  obtain ⟨w, more, start, starts⟩ := args.exists_start
  rw [start, List.cons_append, List.cons.injEq] at same
  rw [← same.1] at starts
  cases starts

theorem unique_noArguments : Derivation.noArguments.Unique := by
  intro d' ws ws' same
  cases d' with
  | noArguments =>
    cases same
    exact ⟨rfl, rfl⟩
  | someArguments args => exact absurd same rightParen_ne_arguments

theorem Unique.someArguments {args : Derivation .arguments} (unique : args.Unique) :
    args.someArguments.Unique := by
  intro d' ws ws' same
  cases d' with
  | noArguments => exact absurd same.symm rightParen_ne_arguments
  | someArguments args' =>
    obtain ⟨rfl, rfl⟩ := unique args' ws ws' same
    exact ⟨rfl, rfl⟩

theorem Unique.lastArgument {d : Derivation (.expression 0)} (unique : d.Unique) :
    d.lastArgument.Unique := by
  intro d' ws ws' same
  cases d' with
  | lastArgument d' =>
    obtain ⟨rfl, rest⟩ := unique.eq follows_rightParen follows_rightParen same
    cases rest
    exact ⟨rfl, rfl⟩
  | moreArguments d' more' =>
    simp only [yield, List.append_assoc, List.cons_append, List.nil_append] at same
    cases (unique.eq follows_rightParen follows_comma same).2

theorem Unique.moreArguments {d : Derivation (.expression 0)} {more : Derivation .arguments}
    (unique : d.Unique) (others : more.Unique) : (d.moreArguments more).Unique := by
  intro d' ws ws' same
  simp only [yield, List.append_assoc, List.cons_append, List.nil_append] at same
  cases d' with
  | lastArgument d' => cases (unique.eq follows_comma follows_rightParen same).2
  | moreArguments d' more' =>
    simp only [yield, List.append_assoc, List.cons_append, List.nil_append] at same
    obtain ⟨rfl, rest⟩ := unique.eq follows_comma follows_comma same
    rw [List.cons.injEq] at rest
    obtain ⟨rfl, rfl⟩ := others more' ws ws' rest.2
    exact ⟨rfl, rfl⟩

end Unique

/-- Whatever stands behind the words of a derivation, it is found from them. -/
theorem unique {n : Nonterminal} (d : Derivation n) : d.Unique := by
  induction d with
  | operation op here lhs rhs ih ih' => exact ih.operation here ih'
  | tighter loose d ih => exact ih.tighter loose
  | operand d ih => exact ih.operand
  | sign s d ih => exact ih.sign s
  | unsigned d ih => exact ih.unsigned
  | atom w e spells => exact unique_atom spells
  | parentheses d ih => exact ih.parentheses
  | call _ args ih => exact ih.call
  | noArguments => exact unique_noArguments
  | someArguments args ih => exact ih.someArguments
  | lastArgument d ih => exact ih.lastArgument
  | moreArguments d more ih ih' => exact ih.moreArguments ih'

/-- The grammar is unambiguous. -/
theorem unambiguous {k : Nat} {d d' : Derivation (.expression k)} (same : d.yield = d'.yield) :
    d = d' := by
  have ends : Follows k [] := nofun
  exact (d.unique.eq ends ends (by rw [same])).1

end Derivation

end Formula

end Spreadsheet
