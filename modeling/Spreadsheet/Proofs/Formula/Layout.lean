import Spreadsheet.Proofs.Formula.Pieces

/-!
# `Proofs/Formula/Layout.lean` — where the tokens of a text lie

A text is laid out as tokens with white space around them (`Laid`). This is the tokenizer once
more, with the text cut at the end of each token instead of counted off, and proofs about all
tokens of a text go by induction on it. A token is cut out of the text, so nothing is lost on the
way but white space (`tokens_cover_text`).

What a token was taken for is seen from its text alone (`Kind.Fits`), a name that is called apart:
the parenthesis behind it is not part of it, but it is always there, and with no gap.
-/

set_option autoImplicit false

namespace Spreadsheet.Token

variable {offset n : Nat} {s u z text front behind : List Char} {kind : Kind} {c mark : Char}
    {t : Token}
  {tokens : List Token}

/-! ## Bytes -/

theorem width_cons (c : Char) (s : List Char) : width (c :: s) = c.utf8Size + width s := by
  have start : ∀ (s : List Char) (n : Nat),
    s.foldl (fun n c => n + c.utf8Size) n = n + width s := by
    intro s
    induction s with
    | nil => exact fun n => rfl
    | cons d s ih =>
      intro n
      have own : width (d :: s) = 0 + d.utf8Size + width s := ih _
      rw [List.foldl_cons, ih, own, Nat.zero_add, Nat.add_assoc]
  have all : width (c :: s) = 0 + c.utf8Size + width s := start s _
  rw [all, Nat.zero_add]

@[simp] theorem width_append (s z : List Char) : width (s ++ z) = width s + width z := by
  induction s with
  | nil => exact (Nat.zero_add _).symm
  | cons c s ih => rw [List.cons_append, width_cons, width_cons, ih, Nat.add_assoc]

theorem utf8ByteSize_ofList (s : List Char) : (String.ofList s).utf8ByteSize = width s := by
  induction s with
  | nil => rfl
  | cons c s ih =>
    rw [String.ofList_cons, String.utf8ByteSize_append, String.utf8ByteSize_singleton, ih,
      width_cons]

/-- Where a token ends. -/
def stop (t : Token) : Nat := t.offset + t.text.utf8ByteSize

@[simp] theorem stop_ofList (kind : Kind) (s : List Char) (offset : Nat) :
    stop ⟨kind, String.ofList s, offset⟩ = offset + width s := by
  rw [stop, utf8ByteSize_ofList]

/-! ## What tokens say -/

/-- What a text says that is taken for a kind of token. -/
def Kind.Fits (text : List Char) : Kind → Prop
  | .number x => x.isFinite = true ∧ Decimal.number? text = some x
  | .text s => text = ['"'] ++ double '"' s.toList ++ ['"']
  | .bool b => Text.sameName (String.ofList text) (if b then "TRUE" else "FALSE") = true
  | .cell => isCellShaped text = true
  | .range =>
    ∃ first last, text = first ++ [':'] ++ last ∧ isCellShaped first = true ∧
      isCellShaped last = true
  | .function | .name => isCellShaped text = false
  | .operator op => text = op.symbol.toList
  | .leftParen => text = ['(']
  | .rightParen => text = [')']
  | .comma => text = [',']
  | .eof => text = []

/-- A literal is its text with the marks doubled, and the closing mark. -/
theorem take_of_closeLiteral (closed : closeLiteral mark s = some (text, n)) :
    s.take n = double mark text ++ [mark] := by
  -- Two marks in a row are one mark of the text; any other character stands for itself.
  fun_induction closeLiteral mark s generalizing text n with
  | case1 | case3 => cases closed
  | case2 | case5 =>
    cases closed
    rfl
  | case4 rest ih =>
    obtain ⟨⟨text', n'⟩, closed', eq⟩ := Option.map_eq_some_iff.1 closed
    cases eq
    simp [ih closed']
  | case6 c d rest other ih =>
    obtain ⟨⟨text', n'⟩, closed', eq⟩ := Option.map_eq_some_iff.1 closed
    cases eq
    simp [ih closed', other]

theorem numeral_fits (h : numeral offset (c :: s) = .ok (kind, n + 1))
    (start : startsNumeral c s = true) :
    kind.Fits (c :: s.take n) := by
  obtain ⟨x, rfl, finite, value⟩ := numeral_cases h
  rw [List.take_succ_cons] at value
  obtain ⟨m, found, rfl⟩ := Option.map_eq_some_iff.1 value
  refine ⟨finite, ?_⟩
  -- A numeral in a formula has no sign, which the text of a number may have.
  unfold Decimal.number?
  split
  next sign =>
    cases sign
    cases start
  next sign =>
    cases sign
    cases start
  next => rw [Decimal.unsigned?, found]

theorem classify_fits (shapeless : isCellShaped u = false) (z : List Char) :
    (classify u z).Fits u := by
  unfold classify
  dsimp only
  split
  next => exact shapeless
  next =>
    split
    next isTrue => exact (Bool.and_eq_true_iff.1 isTrue).2
    next =>
      split
      next isFalse => exact (Bool.and_eq_true_iff.1 isFalse).2
      next => exact shapeless

theorem name_fits (h : name offset s = .ok (kind, n)) : kind.Fits (s.take n) := by
  obtain ⟨m, found, ⟨shaped, rfl, rfl⟩ |
    ⟨shaped, rfl, c, rest, _, m', behind, -, found', shaped', rfl⟩ |
    ⟨shapeless, rfl, rfl⟩⟩ := name_cases h
  · exact shaped
  · rw [take_of_corners behind (nameLength_le found)]
    exact ⟨_, _, by simp, shaped, shaped'⟩
  · exact classify_fits shapeless _

/-- A token is taken for what its text says. -/
theorem lexeme_fits (h : lexeme offset c s = .ok (kind, n)) : kind.Fits (c :: s.take n) := by
  rcases lexeme_cases h with ⟨start, found⟩ | ⟨-, found⟩ | ⟨numeric, start, -⟩
  · exact numeral_fits found start
  · exact name_fits found
  -- What is neither a numeral nor a name is a literal or a symbol, by its first character.
  unfold startsNumeral at numeric
  simp only [lexeme, numeric, start, Bool.false_eq_true, if_false] at h
  split at h
  case h_1 =>
    split at h
    next literal m closed =>
      cases h
      show _ = _
      rw [take_of_closeLiteral closed, String.toList_ofList]
      rfl
    next => cases h
  case h_12 | h_13 => split at h <;> cases h <;> rfl
  case h_14 => cases h
  all_goals
    cases h
    rfl

theorem ne_eof_of_lexeme (h : lexeme offset c s = .ok (kind, n)) : kind ≠ .eof := by
  rintro rfl
  cases lexeme_fits h

/-- A name is taken for that of a function because a parenthesis stands behind it. -/
theorem exists_leftParen_of_lexeme (h : lexeme offset c s = .ok (.function, n)) :
    ∃ z, s.drop n = '(' :: z := by
  obtain ⟨-, named⟩ := name_of_lexeme h rfl
  obtain ⟨m, -, ⟨-, cell, -⟩ | ⟨-, range, -⟩ | ⟨-, called, rfl⟩⟩ := name_cases named
  · cases cell
  · cases range
  rw [List.drop_succ_cons] at called
  exact List.head?_eq_some_iff.1 (classify_eq_function called.symm).2

/-! ## Layouts -/

/-- A text that starts at an offset is laid out as tokens, with white space around them. -/
inductive Laid : Nat → List Char → List Token → Prop where
  | ending (offset : Nat) : Laid offset [] [⟨.eof, "", offset⟩]
  | blank {offset : Nat} {c : Char} {s : List Char} {tokens : List Token}
      (blank : Text.isBlank c = true)
      (rest : Laid (offset + c.utf8Size) s tokens) : Laid offset (c :: s) tokens
  | token {offset : Nat} {c : Char} {u s : List Char} {kind : Kind} {tokens : List Token}
      (visible : Text.isBlank c = false) (lexed : lexeme offset c (u ++ s) = .ok (kind, u.length))
      (rest : Laid (offset + width (c :: u)) s tokens) :
      Laid offset (c :: u ++ s) (⟨kind, String.ofList (c :: u), offset⟩ :: tokens)

theorem scanFrom_eq_ok_iff : scanFrom offset s = .ok tokens ↔ Laid offset s tokens := by
  constructor
  · intro h
    fun_induction scanFrom offset s generalizing tokens with
    | case1 offset =>
      cases h
      exact .ending offset
    | case2 offset c s blank ih => exact .blank blank (ih h)
    | case3 | case4 => cases h
    | case5 offset c s visible kind n lexed text rest scanned =>
      rename_i ih
      cases h
      have short := lexeme_le lexed
      -- The tokenizer counts characters off; the layout cuts the text there.
      have length : (s.take n).length = n := by rw [List.length_take, Nat.min_eq_left short]
      have laid : Laid offset (c :: s.take n ++ s.drop n)
        (⟨kind, String.ofList (c :: s.take n), offset⟩ :: rest) := by
        refine .token (by simpa using visible) ?_ (ih scanned)
        rw [List.take_append_drop, length]
        exact lexed
      rwa [List.cons_append, List.take_append_drop] at laid
  · intro laid
    induction laid with
    | ending offset => rw [scanFrom]
    | blank blank _ ih => rw [scanFrom, if_pos blank, ih]
    | token visible lexed _ ih =>
      rw [List.cons_append, scanFrom, if_neg (by simp [visible]), lexed]
      simp only [List.take_left, List.drop_left, ih]

namespace Laid

/-- Something visible starts a token. -/
theorem starts (laid : Laid offset (c :: s) tokens) (visible : Text.isBlank c = false) :
    ∃ u z kind rest, s = u ++ z ∧ lexeme offset c s = .ok (kind, u.length) ∧
      Laid (offset + width (c :: u)) z rest ∧
      tokens = ⟨kind, String.ofList (c :: u), offset⟩ :: rest := by
  generalize whole : c :: s = text at laid
  cases laid with
  | ending => cases whole
  | blank blank =>
    cases whole
    rw [blank] at visible
    cases visible
  | @token _ _ u z kind rest _ lexed laid =>
    cases whole
    exact ⟨u, z, kind, rest, rfl, lexed, laid, rfl⟩

theorem le_offset (laid : Laid offset s tokens) : ∀ t ∈ tokens, offset ≤ t.offset := by
  induction laid with
  | ending offset =>
    intro t ht
    rw [List.mem_singleton.1 ht]
  | blank _ _ ih => exact fun t ht => (Nat.le_add_right _ _).trans (ih t ht)
  | token _ _ _ ih =>
    intro t ht
    rcases List.mem_cons.1 ht with rfl | ht
    · exact Nat.le_refl _
    · exact (Nat.le_add_right _ _).trans (ih t ht)

/-- Each token ends before the next one starts. -/
theorem ordered (laid : Laid offset s tokens) :
    tokens.Pairwise fun t u => t.offset < u.offset ∧ t.stop ≤ u.offset := by
  induction laid with
  | ending => exact List.pairwise_singleton _ _
  | blank _ _ ih => exact ih
  | @token offset c u _ _ _ _ _ rest ih =>
    refine List.pairwise_cons.2 ⟨fun t ht => ?_, ih⟩
    have behind := rest.le_offset t ht
    have some := c.utf8Size_pos
    rw [stop_ofList]
    rw [width_cons] at behind ⊢
    exact ⟨by dsimp only; omega, behind⟩

/-- The text of a token is what stands at its place. -/
theorem slice (laid : Laid offset s tokens) (ht : t ∈ tokens) :
    ∃ front behind, s = front ++ t.text.toList ++ behind ∧ t.offset = offset + width front := by
  induction laid with
  | ending offset =>
    rw [List.mem_singleton.1 ht]
    exact ⟨[], [], rfl, rfl⟩
  | @blank offset c _ _ _ _ ih =>
    obtain ⟨front, behind, rfl, place⟩ := ih ht
    exact ⟨c :: front, behind, rfl, by rw [place, width_cons, Nat.add_assoc]⟩
  | @token offset c u s _ _ _ _ _ ih =>
    rcases List.mem_cons.1 ht with rfl | ht
    · exact ⟨[], s, by rw [String.toList_ofList, List.nil_append], rfl⟩
    · obtain ⟨front, behind, rfl, place⟩ := ih ht
      exact ⟨c :: u ++ front, behind, by simp, by rw [place, width_append, Nat.add_assoc]⟩

/-- What can be seen belongs to a token. -/
theorem covers (laid : Laid offset s tokens) (cut : s = front ++ c :: behind)
    (visible : Text.isBlank c = false) :
    ∃ t ∈ tokens, t.offset ≤ offset + width front ∧ offset + width front < t.stop := by
  induction laid generalizing front with
  | ending => simp at cut
  | @blank offset d s tokens blank _ ih =>
    cases front with
    | nil =>
      cases cut
      rw [blank] at visible
      cases visible
    | cons d' front =>
      cases cut
      obtain ⟨t, ht, after, before⟩ := ih rfl
      rw [width_cons, ← Nat.add_assoc]
      exact ⟨t, ht, after, before⟩
  | @token offset d u s kind tokens _ _ _ ih =>
    -- The character lies behind the token or inside it.
    rw [List.append_eq_append_iff] at cut
    obtain ⟨more, rfl, rfl⟩ | ⟨more, own, cut⟩ := cut
    · obtain ⟨t, ht, after, before⟩ := ih rfl
      rw [width_append, ← Nat.add_assoc]
      exact ⟨t, List.mem_cons_of_mem _ ht, after, before⟩
    · cases more with
      | nil =>
        -- The character is the first one behind the token.
        rw [List.append_nil] at own
        have first : s = [] ++ c :: behind := cut.symm
        obtain ⟨t, ht, after, before⟩ := ih first
        rw [← own]
        exact ⟨t, List.mem_cons_of_mem _ ht, after, before⟩
      | cons c' more =>
        cases cut
        refine ⟨_, List.mem_cons_self, Nat.le_add_right _ _, ?_⟩
        have some := c.utf8Size_pos
        rw [stop_ofList, own, width_append, width_cons]
        omega

/-- The end of the formula is marked once, behind all tokens with something in them. -/
theorem ends (laid : Laid offset s tokens) :
    ∃ front, tokens = front ++ [⟨.eof, "", offset + width s⟩] ∧ ∀ t ∈ front, t.kind ≠ .eof ∧
    t.text ≠ "" := by
  induction laid with
  | ending offset => exact ⟨[], rfl, nofun⟩
  | blank _ _ ih =>
    obtain ⟨front, rfl, others⟩ := ih
    exact ⟨front, by rw [width_cons, Nat.add_assoc], others⟩
  | token _ lexed _ ih =>
    obtain ⟨front, rfl, others⟩ := ih
    refine ⟨_ :: front, by rw [width_append, ← Nat.add_assoc, List.cons_append], fun t ht => ?_⟩
    rcases List.mem_cons.1 ht with rfl | ht
    · exact ⟨ne_eof_of_lexeme lexed,
        fun empty => List.cons_ne_nil _ _ (String.ofList_eq_empty_iff.1 empty)⟩
    · exact others t ht

theorem fits (laid : Laid offset s tokens) (ht : t ∈ tokens) : t.kind.Fits t.text.toList := by
  induction laid with
  | ending =>
    rw [List.mem_singleton.1 ht]
    rfl
  | blank _ _ ih => exact ih ht
  | @token _ c u s _ _ _ lexed _ ih =>
    rcases List.mem_cons.1 ht with rfl | ht
    · have fits := lexeme_fits lexed
      rw [List.take_left] at fits
      rwa [String.toList_ofList]
    · exact ih ht

/-- A token starts with something visible. -/
theorem visible (laid : Laid offset s tokens) (ht : t ∈ tokens) (token : t.kind ≠ .eof) :
    ∃ c u, t.text.toList = c :: u ∧ Text.isBlank c = false := by
  induction laid with
  | ending =>
    rw [List.mem_singleton.1 ht] at token
    exact absurd rfl token
  | blank _ _ ih => exact ih ht
  | @token _ c u _ _ _ visible _ _ ih =>
    rcases List.mem_cons.1 ht with rfl | ht
    · exact ⟨c, u, String.toList_ofList, visible⟩
    · exact ih ht

/-- The name of a function has an opening parenthesis right behind it. -/
theorem called {before after : List Token} (laid : Laid offset s tokens)
    (cut : tokens = before ++ t :: after) (named : t.kind = .function) :
    ∃ opening more, after = opening :: more ∧ opening.kind = .leftParen ∧
    opening.offset = t.stop := by
  induction laid generalizing before with
  | ending =>
    cases before with
    | nil =>
      cases cut
      cases named
    | cons => simp at cut
  | blank _ _ ih => exact ih cut
  | token _ lexed rest ih =>
    cases before with
    | cons => exact ih (List.cons.inj cut).2
    | nil =>
      cases cut
      cases named
      -- The lexer took the name for a function because of the parenthesis, which is therefore the
      -- next token.
      obtain ⟨z, behind⟩ := exists_leftParen_of_lexeme lexed
      rw [List.drop_left] at behind
      subst behind
      obtain ⟨u, z, kind, more, -, opening, -, rfl⟩ := rest.starts (by decide)
      have same : (Kind.leftParen, 0) = (kind, u.length) := Except.ok.inj opening
      exact ⟨_, more, rfl, (Prod.mk.inj same).1.symm, (stop_ofList _ _ _).symm⟩

end Laid

/-! ## All tokens -/

/-- The tokens of a text take in all of it but white space, and each was taken for what it says. -/
structure Lossless (source : String) (tokens : List Token) : Prop where
  ordered : tokens.Pairwise fun t u => t.offset < u.offset ∧ t.stop ≤ u.offset
  /-- The text of a token is what stands in the source at its offset. -/
  slices : ∀ t ∈ tokens, ∃ before after, source = before ++ t.text ++ after ∧
    before.utf8ByteSize = t.offset
  /-- Whatever character lies outside the tokens is white space. -/
  gaps : ∀ before c after, source = before ++ String.singleton c ++ after →
    (∀ t ∈ tokens, ¬ (t.offset ≤ before.utf8ByteSize ∧ before.utf8ByteSize < t.stop)) →
    Text.isBlank c = true
  ends : ∃ front, tokens = front ++ [⟨.eof, "", source.utf8ByteSize⟩] ∧ ∀ t ∈ front, t.kind ≠ .eof ∧
    t.text ≠ ""
  fits : ∀ t ∈ tokens, t.kind.Fits t.text.toList
  /-- The name of a function has an opening parenthesis right behind it. -/
  called : ∀ before t after, tokens = before ++ t :: after → t.kind = .function →
    ∃ opening more, after = opening :: more ∧ opening.kind = .leftParen ∧ opening.offset = t.stop

/-- **Nothing is lost in tokens.** They lie in the text one behind the other, each is cut out of
the text at its offset, and only white space is left out. A token's kind is what its text says,
and the end of the formula is marked once, at its end. -/
theorem tokens_cover_text {source : String} {tokens : List Token}
    (scanned : scan source = .ok tokens) :
    Lossless source tokens := by
  have laid : Laid 0 source.toList tokens := scanFrom_eq_ok_iff.1 scanned
  have size : source.utf8ByteSize = 0 + width source.toList := by
    rw [← utf8ByteSize_ofList, String.ofList_toList, Nat.zero_add]
  refine ⟨laid.ordered, fun t ht => ?_, fun before c after cut outside => ?_, size ▸ laid.ends,
    fun t => laid.fits, fun before t after => laid.called⟩
  · obtain ⟨front, behind, cut, place⟩ := laid.slice ht
    refine ⟨String.ofList front, String.ofList behind, String.toList_inj.1 ?_, ?_⟩
    · simpa using cut
    · rw [utf8ByteSize_ofList, place, Nat.zero_add]
  -- A character outside all tokens that could be seen would belong to one.
  · by_contra visible
    have cut : source.toList = before.toList ++ c :: after.toList := by
      rw [cut]
      simp
    obtain ⟨t, ht, inside⟩ := laid.covers cut (Bool.eq_false_iff.2 visible)
    rw [← utf8ByteSize_ofList, String.ofList_toList, Nat.zero_add] at inside
    exact outside t ht inside

/-- A sheet's name with a letter of two bytes and a doubled apostrophe, a doubled quote, and white
space all around. -/
theorem tokens_cover_text_of_call :
    let source := "  sum('é''s'!A1:$B$2, \"a\"\"b\")<>1.5e3 & TRUE\t"
    let tokens : List Token :=
      [⟨.function, "sum", 2⟩, ⟨.leftParen, "(", 5⟩, ⟨.range, "'é''s'!A1:$B$2", 6⟩,
      ⟨.comma, ",", 21⟩, ⟨.text "a\"b", "\"a\"\"b\"", 23⟩, ⟨.rightParen, ")", 29⟩,
      ⟨.operator .notEqual, "<>", 30⟩,
      ⟨.number 1500, "1.5e3", 32⟩, ⟨.operator .concat, "&", 38⟩, ⟨.bool true, "TRUE", 40⟩,
      ⟨.eof, "", 45⟩]
    scan source = .ok tokens ∧ Lossless source tokens := by
  intro source tokens
  have scanned : scan source = .ok tokens := by decide +kernel
  exact ⟨scanned, tokens_cover_text scanned⟩

end Spreadsheet.Token
