import Spreadsheet.Proofs.Formula.Grammar
import Spreadsheet.Proofs.Formula.LexicalFault

/-!
# `Proofs/Formula/Fault.lean` — syntax errors point at the fault

A text that is no formula fails in the tokenizer or in the parser. The parser blames tokens only
(`Blames`): whatever it reads, it leaves tokens that are among those it was given and that still
end with the end of the formula, so the token that it finds instead of another one is there, and
so is the parenthesis whose place it carries along (`level_outcome` and its companions). Tokens
are cut out of the text, and so what stands at the place of a fault is the text of its token.

Offsets count bytes of the formula's body. That an offset is one between two characters of it is
said by cutting the body there.
-/

set_option autoImplicit false

namespace Spreadsheet

namespace Formula

variable {k : Nat} {tokens tokens' : List Token} {t opening : Token} {e : SyntaxError}

/-! ## Faults of the parser -/

/-- Tokens that end with the end of the formula. -/
inductive Ended : List Token → Prop where
  | last {t : Token} (ends : t.kind = .eof) : Ended [t]
  | cons (t : Token) {tokens : List Token} (rest : Ended tokens) : Ended (t :: tokens)

theorem Ended.of_append (front : List Token) (ends : t.kind = .eof) : Ended (front ++ [t]) := by
  induction front with
  | nil => exact .last ends
  | cons u front ih => exact .cons u ih

/-- Behind a token that is not the end there are others. -/
theorem Ended.tail (ended : Ended (t :: tokens)) (other : t.kind ≠ .eof) : Ended tokens := by
  cases ended with
  | last ends => exact absurd ends other
  | cons _ rest => exact rest

/-- What a fault says of a token is so of one of these. -/
def Blames (tokens : List Token) : SyntaxError → Prop
  | .unexpectedToken found offset | .trailingInput found offset =>
    ∃ t ∈ tokens, t.kind ≠ .eof ∧ t.offset = offset ∧ found = "'" ++ t.text ++ "'"
  | .unmatchedParen offset => ∃ t ∈ tokens, t.kind = .leftParen ∧ t.offset = offset
  | .unexpectedEnd offset => ∃ t ∈ tokens, t.kind = .eof ∧ t.offset = offset
  | .unexpectedChar _ _ | .numberOutOfRange _ | .unterminated _ => False

theorem Blames.mono (blames : Blames tokens e) (sub : tokens ⊆ tokens') : Blames tokens' e := by
  cases e with
  | unexpectedToken | trailingInput | unmatchedParen | unexpectedEnd =>
    obtain ⟨t, ht, blamed⟩ := blames
    exact ⟨t, sub ht, blamed⟩
  | unexpectedChar | numberOutOfRange | unterminated => exact blames

theorem display_of_ne_eof (other : t.kind ≠ .eof) : t.display = "'" ++ t.text ++ "'" := by
  unfold Token.display
  split
  next ends => exact absurd ends other
  next => rfl

theorem blames_unexpected (ended : Ended tokens) : Blames tokens (unexpected tokens) := by
  cases tokens with
  | nil => cases ended
  | cons t rest =>
    rw [unexpected]
    split
    next ends => exact ⟨t, List.mem_cons_self, ends, rfl⟩
    next other => exact ⟨t, List.mem_cons_self, other, rfl, display_of_ne_eof other⟩

/-- What comes of reading from tokens: a fault of theirs, or some of them are left, up to the
end. -/
def Outcome {α : Type} {P : List Token → Prop} (tokens : List Token) :
    Except SyntaxError (α × { rest // P rest }) → Prop
  | .error e => Blames tokens e
  | .ok (_, rest) => Ended rest.1 ∧ rest.1 ⊆ tokens

theorem ended_of_close {offset : Nat} {rest : Fewer tokens} (ended : Ended tokens)
    (h : close offset tokens = .ok rest) : Ended rest.1 ∧ rest.1 ⊆ tokens := by
  unfold close at h
  split at h
  next => cases h
  next t rest =>
    split at h
    next closes =>
      cases h
      exact ⟨ended.tail (by simp [closes]), List.subset_cons_self t rest⟩
    next => split at h <;> cases h

/-- A parenthesis that is not closed is the one whose place was given. -/
theorem blames_of_close (opens : opening.kind = .leftParen) (ended : Ended tokens)
    (h : close opening.offset tokens = .error e) : Blames (opening :: tokens) e := by
  unfold close at h
  split at h
  next => cases ended
  next t rest =>
    split at h
    next => cases h
    next =>
      split at h
      next =>
        cases h
        exact ⟨opening, List.mem_cons_self, opens, rfl⟩
      next =>
        cases h
        exact (blames_unexpected ended).mono (List.subset_cons_self opening _)

mutual

theorem level_outcome (k : Nat) {tokens : List Token} (ended : Ended tokens) :
    Outcome tokens (level k tokens) := by
  rw [level]
  have first := signed_outcome ended
  split
  next e failed => exact failed ▸ first
  next operand rest fewer found =>
    rw [found] at first
    have more := chain_outcome k operand first.1
    split
    next e failed =>
      rw [failed] at more
      exact Blames.mono more first.2
    next whole rest' noMore chained =>
      rw [chained] at more
      exact ⟨more.1, List.Subset.trans more.2 first.2⟩
termination_by 5 * tokens.length + 2
decreasing_by all_goals omega

theorem chain_outcome (k : Nat) (first : Expr) : ∀ {tokens : List Token}, Ended tokens →
    Outcome tokens (chain k first tokens)
  | [], ended => by cases ended
  | t :: after, ended => by
    rw [chain.eq_def]
    dsimp only
    split
    next => exact ⟨ended, List.Subset.refl _⟩
    next op spelled =>
      split
      next => exact ⟨ended, List.Subset.refl _⟩
      next =>
        -- An operator is not the end, so what stands behind it still ends with the end.
        have ended' : Ended after := ended.tail fun ends => by
          simp [Token.operator?, ends] at spelled
        have second := level_outcome (op.level + 1) ended'
        split
        next e failed =>
          rw [failed] at second
          exact Blames.mono second (List.subset_cons_self t after)
        next operand rest fewer found =>
          rw [found] at second
          have shorter : rest.length < after.length := fewer
          have more := chain_outcome k (.binary op first operand) second.1
          have sub : rest ⊆ t :: after := List.Subset.trans second.2 (List.subset_cons_self t after)
          split
          next e failed =>
            rw [failed] at more
            exact Blames.mono more sub
          next whole rest' noMore chained =>
            rw [chained] at more
            exact ⟨more.1, List.Subset.trans more.2 sub⟩
termination_by tokens => 5 * tokens.length
decreasing_by all_goals simp only [List.length_cons] at *; omega

theorem signed_outcome : ∀ {tokens : List Token}, Ended tokens → Outcome tokens (signed tokens)
  | [], ended => by cases ended
  | t :: after, ended => by
    rw [signed.eq_def]
    dsimp only
    split
    next => exact primary_outcome ended
    next sign spelled =>
      have ended' : Ended after := ended.tail fun ends => by simp [Token.sign?, ends] at spelled
      have operand := signed_outcome ended'
      split
      next e failed =>
        rw [failed] at operand
        exact Blames.mono operand (List.subset_cons_self t after)
      next e rest fewer found =>
        rw [found] at operand
        exact ⟨operand.1, List.Subset.trans operand.2 (List.subset_cons_self t after)⟩
termination_by tokens => 5 * tokens.length + 1
decreasing_by all_goals simp only [List.length_cons]; omega

theorem primary_outcome : ∀ {tokens : List Token}, Ended tokens → Outcome tokens (primary tokens)
  | [], ended => by cases ended
  | ⟨kind, s, offset⟩ :: after, ended => by
    have others (other : kind ≠ .eof) : Ended after ∧ after ⊆ ⟨kind, s, offset⟩ :: after :=
      ⟨ended.tail other, List.subset_cons_self _ after⟩
    rw [primary.eq_def]
    dsimp only
    split
    case h_1 | h_2 | h_3 | h_4 | h_5 | h_6 => exact others (by simp)
    -- A name that is called: the parenthesis is there or blamed, and its place goes on to the
    -- arguments.
    case h_7 =>
      obtain ⟨ended', sub⟩ := others (by simp)
      obtain ⟨opening, after', start⟩ : ∃ opening after', after = opening :: after' := by
        cases ended' <;> exact ⟨_, _, rfl⟩
      have shorter : after'.length < after.length := by simp [start]
      have args (opens : opening.kind = .leftParen) :
        Outcome (opening :: after') (call opening.offset after') :=
        call_outcome opens ((start ▸ ended' : Ended (opening :: after')).tail (by simp [opens]))
      subst start
      dsimp only
      split
      next opens =>
        have args := args opens
        split
        next e failed =>
          rw [failed] at args
          exact Blames.mono args sub
        next es rest fewer found =>
          rw [found] at args
          exact ⟨args.1, List.Subset.trans args.2 sub⟩
      next => exact (blames_unexpected ended').mono sub
    case h_8 =>
      obtain ⟨ended', sub⟩ := others (by simp)
      have inner := level_outcome 0 ended'
      split
      next e failed =>
        rw [failed] at inner
        exact Blames.mono inner sub
      next e rest fewer found =>
        rw [found] at inner
        split
        next e failed =>
          -- The parenthesis that is not closed is the one at hand.
          have blames : Blames (⟨.leftParen, s, offset⟩ :: rest) e :=
            blames_of_close rfl inner.1 failed
          exact blames.mono (List.cons_subset_cons _ inner.2)
        next rest' fewer' closed =>
          obtain ⟨ended'', sub'⟩ := ended_of_close inner.1 closed
          exact ⟨ended'', List.Subset.trans sub' (List.Subset.trans inner.2 sub)⟩
    all_goals exact blames_unexpected ended
termination_by tokens => 5 * tokens.length
decreasing_by all_goals simp only [List.length_cons]; omega

/-- A fault inside a call is one of its tokens or of the parenthesis that opens it. -/
theorem call_outcome {opening : Token} (opens : opening.kind = .leftParen) :
    ∀ {tokens : List Token}, Ended tokens →
    Outcome (opening :: tokens) (call opening.offset tokens)
  | [], ended => by cases ended
  | t :: after, ended => by
    rw [call.eq_def]
    dsimp only
    split
    next closes =>
      have behind : after ⊆ opening :: t :: after :=
        List.Subset.trans (List.subset_cons_self t after) (List.subset_cons_self opening _)
      exact ⟨ended.tail (by simp [closes]), behind⟩
    next => exact arguments_outcome opens ended
termination_by tokens => 5 * tokens.length + 4
decreasing_by all_goals simp only [List.length_cons]; omega

theorem arguments_outcome {opening : Token} (opens : opening.kind = .leftParen)
    {tokens : List Token} (ended : Ended tokens) :
    Outcome (opening :: tokens) (arguments opening.offset tokens) := by
  rw [arguments]
  have first := level_outcome 0 ended
  have own : tokens ⊆ opening :: tokens := List.subset_cons_self opening tokens
  split
  next e failed =>
    rw [failed] at first
    exact Blames.mono first own
  -- Nothing behind an argument: the one that is not closed was opened before.
  next => exact ⟨opening, List.mem_cons_self, opens, rfl⟩
  next arg t after fewer found =>
    rw [found] at first
    obtain ⟨ended', sub⟩ := first
    have shorter : after.length < tokens.length := Nat.lt_of_succ_lt fewer
    split
    next comma =>
      have behind : after ⊆ tokens := List.Subset.trans (List.subset_cons_self t after) sub
      have more := arguments_outcome opens (ended'.tail (by simp [comma]))
      split
      next e failed =>
        rw [failed] at more
        exact Blames.mono more (List.cons_subset_cons _ behind)
      next es rest fewer' others =>
        rw [others] at more
        exact ⟨more.1, List.Subset.trans more.2 (List.cons_subset_cons _ behind)⟩
    next =>
      split
      next e failed =>
        exact (blames_of_close opens ended' failed).mono
          (List.cons_subset_cons _ sub)
      next rest fewer' closed =>
        obtain ⟨ended'', sub'⟩ := ended_of_close ended' closed
        exact ⟨ended'', List.Subset.trans sub' (List.Subset.trans sub own)⟩
termination_by 5 * tokens.length + 3
decreasing_by all_goals omega

end

/-- The parser blames a token of the text. -/
theorem blames_of_ofTokens (ended : Ended tokens) (h : ofTokens tokens = .error e) :
    Blames tokens e := by
  unfold ofTokens at h
  have whole := level_outcome 0 ended
  split at h
  next e failed =>
    cases h
    rw [failed] at whole
    exact whole
  next => cases h
  -- A token behind the whole formula is trailing input, unless it marks the end.
  next t rest fewer found =>
    rw [found] at whole
    split at h
    next => cases h
    next other =>
      cases h
      exact ⟨t, whole.2 List.mem_cons_self, other, rfl, display_of_ne_eof other⟩

end Formula

/-! ## Places -/

/-- What a fault says of its place in a text is so of what stands there, up to the end. -/
def SyntaxError.PointsAt (source behind : List Char) : SyntaxError → Prop
  | .unexpectedChar c _ => [c] <+: behind
  -- All marks behind the opening one are in pairs, so that none of them closes the literal. It
  -- opens a token or the second corner of a range.
  | .unterminated offset =>
    ∃ mark text, (mark = '"' ∨ mark = '\'') ∧ behind = mark :: Token.double mark text ∧
      ∃ place front, Token.Reaches 0 source place (front ++ behind) ∧
      offset = place + Token.width front ∧
        (front = [] ∨ ∃ corner, Token.isCellShaped corner = true ∧ front = corner ++ [':'])
  | .numberOutOfRange offset => Token.Reaches 0 source offset behind ∧
      ∃ m, Decimal.numeral? (behind.take (Token.numeralLength behind)) = some m ∧
      m.toFloat.isFinite = false
  | .unmatchedParen offset => ['('] <+: behind ∧
      ∃ tokens, Token.scanFrom 0 source = .ok tokens ∧ ∃ t ∈ tokens, t.kind = .leftParen ∧
      t.offset = offset
  | .unexpectedToken found offset | .trailingInput found offset =>
      ∃ tokens, Token.scanFrom 0 source = .ok tokens ∧
        ∃ t ∈ tokens, t.kind ≠ .eof ∧ t.offset = offset ∧ found = "'" ++ t.text ++ "'" ∧
        t.text.toList <+: behind
  | .unexpectedEnd _ => behind = []

/-- The place of a fault and what stands there, in a text without an equals sign. -/
def SyntaxError.Points (source : List Char) (e : SyntaxError) : Prop :=
  ∃ before behind, source = before ++ behind ∧ e.offset = Token.width before ∧
    e.PointsAt source behind

/-- The fault of a token is a fault of the text that the tokenizer came through. -/
theorem Token.LexicalFault.points {place : Nat} {source z : List Char} {e : SyntaxError}
    (fault : LexicalFault place z e) (reaches : Reaches 0 source place z) : e.Points source := by
  obtain ⟨skipped, rfl, start⟩ := reaches.exists_front
  rw [Nat.zero_add] at start
  -- The text in front of the fault is what was skipped and what of the token was still right.
  cases fault with
  | unexpectedChar front c z =>
    refine ⟨skipped ++ front, c :: z, by simp, ?_, by simp [SyntaxError.PointsAt]⟩
    rw [SyntaxError.offset, width_append, start]
  | unexpectedEnd =>
    exact ⟨skipped ++ z, [], by simp, by rw [SyntaxError.offset, width_append, start], rfl⟩
  | @unterminated front mark text hmark opens =>
    refine ⟨skipped ++ front, mark :: double mark text, by simp, ?_, mark, text, hmark, rfl, place,
      front, reaches, rfl, opens⟩
    rw [SyntaxError.offset, width_append, start]
  | numberOutOfRange spells large => exact ⟨skipped, z, rfl, start, reaches, _, spells, large⟩

namespace Formula

/-- A token that is blamed stands where its text does. -/
theorem Blames.points {s : List Char} {tokens : List Token} {e : SyntaxError}
    (blames : Blames tokens e) (scanned : Token.scanFrom 0 s = .ok tokens) : e.Points s := by
  have laid := Token.scanFrom_eq_ok_iff.1 scanned
  -- A token stands at its offset, so the text can be cut there.
  have cut {t : Token} (ht : t ∈ tokens) :
      ∃ before behind, s = before ++ (t.text.toList ++ behind) ∧ t.offset = Token.width before := by
    obtain ⟨before, behind, cut, place⟩ := laid.slice ht
    exact ⟨before, behind, by rw [cut, List.append_assoc], by rw [place, Nat.zero_add]⟩
  cases e with
  | unexpectedChar | numberOutOfRange | unterminated => cases blames
  | unexpectedToken | trailingInput =>
    obtain ⟨t, ht, other, place, found⟩ := blames
    obtain ⟨before, behind, whole, start⟩ := cut ht
    exact ⟨before, t.text.toList ++ behind, whole, place.symm.trans start, tokens, scanned, t, ht,
      other, place, found, List.prefix_append _ _⟩
  | unmatchedParen =>
    obtain ⟨t, ht, opens, place⟩ := blames
    obtain ⟨before, behind, whole, start⟩ := cut ht
    have paren := laid.fits ht
    rw [opens] at paren
    have text : t.text.toList = ['('] := paren
    refine ⟨before, t.text.toList ++ behind, whole, place.symm.trans start, ?_, tokens, scanned, t,
      ht, opens, place⟩
    rw [text]
    exact List.prefix_append _ _
  | unexpectedEnd =>
    obtain ⟨t, ht, ends, place⟩ := blames
    obtain ⟨front, rfl, others⟩ := laid.ends
    -- Only the last token is the end of the formula, and its place is the length of the text.
    rcases List.mem_append.1 ht with ht | ht
    · exact absurd ends (others t ht).1
    · rw [List.mem_singleton.1 ht] at place
      exact ⟨s, [], by simp, by rw [SyntaxError.offset, ← place, Nat.zero_add], rfl⟩

theorem points_of_parse {source : String} {e : SyntaxError} (failed : parse source = .error e) :
    e.Points (body source).toList := by
  unfold parse at failed
  split at failed
  next fault scanned =>
    cases failed
    obtain ⟨place, z, reaches, fault⟩ := Token.scanFrom_fault scanned
    exact fault.points reaches
  next tokens scanned =>
    obtain ⟨front, ends, -⟩ := (Token.scanFrom_eq_ok_iff.1 scanned).ends
    have ended : Ended tokens := by
      rw [ends]
      exact .of_append front rfl
    exact (blames_of_ofTokens ended failed).points scanned

/-- **Syntax errors point at the fault.** The place of a fault lies between two characters of the
formula's body, or at its end. What stands there is what the fault says: the character that is not
expected, the mark of a literal that is never closed, a numeral that spells no finite number, an
opening parenthesis, the token whose text is shown, or the end of the body. -/
theorem syntax_errors_point_at_fault {source : String} {e : SyntaxError}
    (failed : parse source = .error e) :
    e.offset ≤ (body source).utf8ByteSize ∧ ∃ before behind, body source = before ++ behind ∧
      before.utf8ByteSize = e.offset ∧ e.PointsAt (body source).toList behind.toList := by
  obtain ⟨before, behind, cut, place, points⟩ := points_of_parse failed
  have whole : body source = String.ofList before ++ String.ofList behind :=
    String.toList_inj.1 (by simp [cut])
  have size : (String.ofList before).utf8ByteSize = e.offset := by
    rw [Token.utf8ByteSize_ofList, place]
  refine ⟨?_, String.ofList before, String.ofList behind, whole,
    size, by rwa [String.toList_ofList]⟩
  rw [whole, String.utf8ByteSize_append, size]
  exact Nat.le_add_right _ _

/-- A letter of two bytes, a sheet whose name has another, and the second corner of a range that
is not closed. -/
theorem syntax_errors_point_at_fault_of_corner :
    let source := "=\"ß\"&'ü'!A1:'b''c"
    parse source = .error (.unterminated 13) ∧ 13 ≤ (body source).utf8ByteSize ∧ ∃ before behind,
      body source = before ++ behind ∧ before.utf8ByteSize = 13 ∧
      (SyntaxError.unterminated 13).PointsAt (body source).toList behind.toList := by
  intro source
  have scanned : Token.scan (body source) = .error (.unterminated 13) := by decide +kernel
  have failed : parse source = .error (.unterminated 13) := by rw [parse, scanned]
  exact ⟨failed, syntax_errors_point_at_fault failed⟩

end Formula

end Spreadsheet
