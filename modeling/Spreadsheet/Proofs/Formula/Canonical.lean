import Spreadsheet.Proofs.Evaluation.Related
import Spreadsheet.Proofs.Formula.Layout
import Spreadsheet.Proofs.Number.Unsigned

/-!
# `Proofs/Formula/Canonical.lean` — the trees that texts spell

Not every tree is spelled by a text: no text has a literal that is negative, an address outside
the limits or a range with its corners the wrong way round, and the names in a formula are what
the lexer takes for names. Trees that keep to this are canonical, and every tree that is parsed is
(`canonical_of_parse`): each word of a text is proper, and the grammar makes canonical trees of
proper words.

A name is canonical if it is read back as the word that it is (`IsBareName`), and so is the name
of a function with the parenthesis behind it (`IsCallName`). That a word of a text stays what it
is when it is read on its own is shown from the lexer, for each kind of word (`proper_of_lexeme`).
-/

set_option autoImplicit false

namespace Spreadsheet

/-! ## Canonical trees -/

namespace Token

/-- A text that is one token, a name or a reference to what there is not. -/
def IsBareName (s : String) : Prop :=
  ∃ t last, scan s = .ok [t, last] ∧ t.text = s ∧
    (t.kind = .name ∨ t.kind = .cell ∧ Address.ofText? s = none ∨ t.kind = .range ∧
      Range.ofText? s = none)

/-- A text in capitals that is the name of a function when a parenthesis follows. -/
def IsCallName (n : String) : Prop :=
  Text.latinUpper n = n ∧ ∃ t opening last, scan (n ++ "(") = .ok [t, opening, last] ∧
    t.kind = .function ∧ t.text = n ∧
    opening.kind = .leftParen

end Token

namespace Expr

/-- What is asked of one part of a canonical tree. -/
def CanonicalPart : Expr → Prop
  | .number x => x.isFinite = true ∧ ¬ x < 0.0 ∧ x ≠ -0.0
  | .cell a => a.InBounds
  | .range r => r.Normalized ∧ r.InBounds
  | .name s => Token.IsBareName s
  | .call n _ => Token.IsCallName n
  | .text _ | .bool _ | .unary _ _ | .binary _ _ _ => True

/-- A tree all of whose parts could have been read. -/
def Canonical (e : Expr) : Prop := ∀ part ∈ e.parts, part.CanonicalPart

variable {e lhs rhs : Expr} {args : List Expr}

theorem mem_partsEach {part : Expr} : part ∈ partsEach args ↔ ∃ arg ∈ args, part ∈ arg.parts := by
  induction args with
  | nil => simp [partsEach]
  | cons arg args ih => simp [partsEach, ih]

theorem canonical_unary {sign : Sign} : (unary sign e).Canonical ↔ e.Canonical := by
  simp [Canonical, parts, CanonicalPart]

theorem canonical_binary {op : Operator} :
    (binary op lhs rhs).Canonical ↔ lhs.Canonical ∧ rhs.Canonical := by
  simp [Canonical, parts, CanonicalPart, or_imp, forall_and]

theorem canonical_call {n : String} :
    (call n args).Canonical ↔ Token.IsCallName n ∧ ∀ arg ∈ args, arg.Canonical := by
  simp only [Canonical, parts, List.mem_cons, mem_partsEach, or_imp, forall_and, forall_eq,
    CanonicalPart]
  refine and_congr_right fun _ => ⟨fun h arg mem part hp => h part ⟨arg, mem, hp⟩, ?_⟩
  rintro h part ⟨arg, mem, hp⟩
  exact h arg mem part hp

end Expr

/-! ## Tokens that are names -/

namespace Token

variable {offset n : Nat} {s u z : List Char} {kind : Kind} {c : Char} {t : Token}
    {tokens : List Token}

/-- The token that a text starts with is the lexeme that it starts with. -/
theorem lexeme_of_scanFrom (h : scanFrom offset s = .ok (t :: tokens)) (token : t.kind ≠ .eof)
    (cut : s = t.text.toList ++ z) :
    ∃ c u, t.text.toList = c :: u ∧ Text.isBlank c = false ∧
    lexeme offset c (u ++ z) = .ok (t.kind, u.length) := by
  have laid := scanFrom_eq_ok_iff.1 h
  obtain ⟨c, u, text, visible⟩ := laid.visible List.mem_cons_self token
  rw [text, List.cons_append] at cut
  subst cut
  obtain ⟨u', _, kind, _, -, lexed, -, starts⟩ := laid.starts visible
  cases starts
  obtain ⟨-, rfl⟩ := List.cons.inj (String.toList_ofList.symm.trans text)
  exact ⟨c, u', text, visible, lexed⟩

theorem taken_of_lexeme (h : lexeme offset c s = .ok (kind, n)) (keeps : kind.keepsText = true)
    (other : kind ≠ .function) :
    startsName c = true ∧ Taken kind (c :: s.take n) := by
  obtain ⟨start, named⟩ := name_of_lexeme h keeps
  exact ⟨start, taken_of_name named other⟩

theorem isFunctionName_of_lexeme (h : lexeme offset c s = .ok (.function, n)) :
    startsName c = true ∧ IsFunctionName (c :: s.take n) := by
  obtain ⟨start, named⟩ := name_of_lexeme h rfl
  exact ⟨start, isFunctionName_of_name named⟩

theorem scan_of_taken {s : String} (hs : s.toList = c :: u) (start : startsName c = true)
    (taken : Taken kind (c :: u)) :
    ∃ last, scan s = .ok [⟨kind, s, 0⟩, last] := by
  have named := taken.name_of_boundary (z := []) (List.cons_ne_nil c u) (by nofun) 0
  have lexed : lexeme 0 c (u ++ []) = .ok (kind, u.length) := (lexeme_eq_name_iff start).2 named
  have laid := Laid.token (Text.visible_of_startsName start) lexed (.ending _)
  rw [List.append_nil, ← hs, String.ofList_toList] at laid
  exact ⟨_, scanFrom_eq_ok_iff.2 laid⟩

theorem isCallName_of_isFunctionName {s : String} (hs : s.toList = c :: u)
    (start : startsName c = true) (called : IsFunctionName (c :: u)) :
    IsCallName (Text.latinUpper s) := by
  refine ⟨latinUpper_latinUpper s, ?_⟩
  have upper : (Text.latinUpper s).toList = c.toUpper :: u.map Char.toUpper := by
    rw [Text.latinUpper, String.toList_ofList, hs, List.map_cons]
  -- Capitals are classified like the letters they are made from, so the name is scanned alike.
  have start' : startsName c.toUpper = true := (toUpper_spec c).2.1.trans start
  have named := called.upper.name_append (List.cons_ne_nil _ _) 0 []
  have lexed : lexeme 0 c.toUpper (u.map Char.toUpper ++ ['(']) =
    .ok (.function, (u.map Char.toUpper).length) :=
    (lexeme_eq_name_iff start').2 named
  have opening : ∀ offset,
    Laid offset ['('] [⟨.leftParen, "(", offset⟩, ⟨.eof, "", offset + width ['(']⟩] :=
    fun offset => .token (u := []) (by decide) rfl (.ending _)
  have laid := Laid.token (Text.visible_of_startsName start') lexed (opening _)
  rw [← upper, String.ofList_toList] at laid
  rw [scan, String.toList_append]
  exact ⟨_, _, _, scanFrom_eq_ok_iff.2 laid, rfl, rfl, rfl⟩

theorem isFunctionName_of_isCallName {n : String} (h : IsCallName n) :
    ∃ c u, n.toList = c :: u ∧ startsName c = true ∧ IsFunctionName (c :: u) := by
  obtain ⟨-, t, opening, last, scanned, kind, rfl, -⟩ := h
  rw [scan, String.toList_append] at scanned
  obtain ⟨c, u, text, -, lexed⟩ := lexeme_of_scanFrom scanned (by rw [kind]; nofun) rfl
  rw [kind] at lexed
  obtain ⟨start, called⟩ := isFunctionName_of_lexeme lexed
  rw [List.take_left] at called
  exact ⟨c, u, text, start, called⟩

theorem taken_of_isBareName {s : String} (h : IsBareName s) :
    ∃ c u kind, s.toList = c :: u ∧ startsName c = true ∧ Taken kind (c :: u) ∧
      kind.keepsText = true ∧
      (⟨kind, s⟩ : Word).tree? = some (.name s) := by
  obtain ⟨t, last, scanned, rfl, kinds⟩ := h
  have tree : t.kind ≠ .eof ∧ t.kind ≠ .function ∧ t.kind.keepsText = true ∧
      (⟨t.kind, t.text⟩ : Word).tree? = some (.name t.text) := by
    -- What looks like an address or a range but is none stands for a name, too.
    rcases kinds with kind | ⟨kind, none⟩ | ⟨kind, none⟩
    · simp [kind, Kind.keepsText, Word.tree?]
    · simp [kind, Kind.keepsText, Word.tree?, Formula.ofCellText, none]
    · simp [kind, Kind.keepsText, Word.tree?, Formula.ofRangeText, none]
  obtain ⟨token, other, keeps, tree⟩ := tree
  obtain ⟨c, u, text, -, lexed⟩ :=
    lexeme_of_scanFrom (z := []) scanned token (List.append_nil _).symm
  rw [List.append_nil] at lexed
  obtain ⟨start, taken⟩ := taken_of_lexeme lexed keeps other
  rw [List.take_length] at taken
  exact ⟨c, u, t.kind, text, start, taken, keeps, tree⟩

end Token

/-! ## Proper words -/

/-- A word that a text can hold. -/
structure Word.Proper (w : Word) : Prop where
  tree : ∀ e, w.tree? = some e → e.CanonicalPart
  called : w.kind = .function → Token.IsCallName (Text.latinUpper w.text)

/-- A word on its own is a tree without other parts. -/
theorem Word.parts_of_tree? {w : Word} {e : Expr} (spells : w.tree? = some e) : e.parts = [e] := by
  unfold tree? at spells
  split at spells
  case h_4 =>
    cases spells
    unfold Formula.ofCellText
    split <;> rfl
  case h_5 =>
    cases spells
    unfold Formula.ofRangeText
    split <;> rfl
  case h_7 => cases spells
  all_goals
    cases spells
    rfl

namespace Token

variable {offset n : Nat} {s u : List Char} {kind : Kind} {c : Char} {x : Float}
    {tokens : List Token}

/-- A numeral spells a finite number that is not below zero and not the negative zero. -/
theorem number_of_numeral (h : numeral offset s = .ok (.number x, n)) :
    (Expr.number x).CanonicalPart := by
  obtain ⟨_, same, finite, value⟩ := numeral_cases h
  cases same
  obtain ⟨m, -, rfl⟩ := Option.map_eq_some_iff.1 value
  have unsigned := Binary64.unsigned_toFloat m
  exact ⟨finite, unsigned.not_lt, unsigned.ne_negative_zero⟩

theorem not_taken_number : ¬ Taken (.number x) u := by
  intro taken
  generalize number : Kind.number x = kind at taken
  cases taken with
  | cell => cases number
  | range => cases number
  | other =>
    rcases classify_cases u [] with kind | ⟨b, kind⟩ | kind <;> cases number.trans kind

theorem number_of_lexeme (h : lexeme offset c s = .ok (.number x, n)) :
    (Expr.number x).CanonicalPart := by
  rcases lexeme_cases h with ⟨-, found⟩ | ⟨-, found⟩ | ⟨-, -, -, other⟩
  · exact number_of_numeral found
  · exact absurd (taken_of_name found nofun) not_taken_number
  · exact absurd rfl (other x)

/-- Whatever a token of a text is, it is a proper word. -/
theorem proper_of_lexeme (h : lexeme offset c s = .ok (kind, n)) (place : Nat) :
    (word ⟨kind, String.ofList (c :: s.take n), place⟩).Proper := by
  have text : (String.ofList (c :: s.take n)).toList = c :: s.take n := String.toList_ofList
  -- A name that is cut out of a text is scanned as the same name by itself.
  have named : kind.keepsText = true → kind ≠ .function →
      ∃ last, scan (String.ofList (c :: s.take n)) =
      .ok [⟨kind, String.ofList (c :: s.take n), 0⟩, last] := by
    intro keeps other
    obtain ⟨start, taken⟩ := taken_of_lexeme h keeps other
    exact scan_of_taken text start taken
  generalize String.ofList (c :: s.take n) = name at text named
  cases kind with
  | number x =>
    refine ⟨fun e spells => ?_, nofun⟩
    cases spells
    exact number_of_lexeme h
  | cell =>
    obtain ⟨last, scanned⟩ := named rfl nofun
    refine ⟨fun e spells => ?_, nofun⟩
    cases spells
    unfold Formula.ofCellText
    split
    next found => exact Address.inBounds_of_ofChars? found
    next none => exact ⟨_, _, scanned, rfl, .inr (.inl ⟨rfl, none⟩)⟩
  | range =>
    obtain ⟨last, scanned⟩ := named rfl nofun
    refine ⟨fun e spells => ?_, nofun⟩
    cases spells
    unfold Formula.ofRangeText
    split
    next found => exact Range.normalized_of_ofText? found
    next none => exact ⟨_, _, scanned, rfl, .inr (.inr ⟨rfl, none⟩)⟩
  | name =>
    obtain ⟨last, scanned⟩ := named rfl nofun
    refine ⟨fun e spells => ?_, nofun⟩
    cases spells
    exact ⟨_, _, scanned, rfl, .inl rfl⟩
  | function =>
    refine ⟨nofun, fun _ => ?_⟩
    obtain ⟨start, called⟩ := isFunctionName_of_lexeme h
    exact isCallName_of_isFunctionName text start called
  | text | bool =>
    refine ⟨fun e spells => ?_, nofun⟩
    cases spells
    trivial
  | operator | leftParen | rightParen | comma | eof => exact ⟨nofun, nofun⟩

theorem Laid.proper (laid : Laid offset s tokens) : ∀ t ∈ tokens, (word t).Proper := by
  induction laid with
  | ending =>
    intro t ht
    rw [List.mem_singleton.1 ht]
    exact ⟨nofun, nofun⟩
  | blank _ _ ih => exact ih
  | @token _ c u s _ _ _ lexed _ ih =>
    have proper := proper_of_lexeme lexed 0
    rw [List.take_left] at proper
    exact List.forall_mem_cons.2 ⟨proper, ih⟩

theorem Scans.proper {ws : List Word} (scans : Scans offset s ws) : ∀ w ∈ ws, w.Proper := by
  obtain ⟨tokens, scanned, rfl⟩ := scans
  exact List.forall_mem_map.2 (scanFrom_eq_ok_iff.1 scanned).proper

end Token

/-! ## Parsed trees -/

namespace Formula

/-- The grammar makes canonical trees of proper words, and leaves proper words over. -/
theorem Reads.canonical {phrase : Phrase} {ws ws' : List Word} {es : List Expr}
    (reads : Reads phrase ws es ws') (proper : ∀ w ∈ ws, w.Proper)
    (first : ∀ k e, phrase = .chain k e → e.Canonical) :
    (∀ e ∈ es, e.Canonical) ∧ ∀ w ∈ ws', w.Proper := by
  induction reads with
  | level _ _ ih ih' =>
    obtain ⟨operand, rest⟩ := ih proper nofun
    refine ih' rest fun k e chain => ?_
    cases chain
    exact operand _ (by simp)
  | unsigned _ ih | someArguments _ ih => exact ih proper nofun
  | stop => exact ⟨fun e he => by rw [List.mem_singleton.1 he]; exact first _ _ rfl, proper⟩
  | operator _ _ _ ih ih' =>
    obtain ⟨operand, rest⟩ := ih (fun w hw => proper w (by simp [hw])) nofun
    refine ih' rest fun k e chain => ?_
    cases chain
    exact Expr.canonical_binary.2 ⟨first _ _ rfl, operand _ (by simp)⟩
  | sign _ ih =>
    obtain ⟨operand, rest⟩ := ih (fun w hw => proper w (by simp [hw])) nofun
    refine ⟨fun e he => ?_, rest⟩
    rw [List.mem_singleton.1 he]
    exact Expr.canonical_unary.2 (operand _ (by simp))
  -- An atom has no parts but itself, and what makes it canonical is that its word is proper.
  | @atom w ws e spells =>
    refine ⟨fun e' he part hp => ?_, fun w hw => proper w (by simp [hw])⟩
    rw [List.mem_singleton.1 he, Word.parts_of_tree? spells, List.mem_singleton] at hp
    rw [hp]
    exact (proper w (by simp)).tree e spells
  | parentheses _ ih =>
    obtain ⟨inner, rest⟩ := ih (fun w hw => proper w (by simp [hw])) nofun
    exact ⟨inner, fun w hw => rest w (by simp [hw])⟩
  | call _ ih =>
    obtain ⟨args, rest⟩ := ih (fun w hw => proper w (by simp [hw])) nofun
    refine ⟨fun e he => ?_, rest⟩
    rw [List.mem_singleton.1 he]
    exact Expr.canonical_call.2 ⟨(proper _ List.mem_cons_self).called rfl, args⟩
  | noArguments => exact ⟨nofun, fun w hw => proper w (by simp [hw])⟩
  | last _ ih =>
    obtain ⟨arg, rest⟩ := ih proper nofun
    exact ⟨arg, fun w hw => rest w (by simp [hw])⟩
  | next _ _ ih ih' =>
    obtain ⟨arg, rest⟩ := ih proper nofun
    obtain ⟨more, rest'⟩ := ih' (fun w hw => rest w (by simp [hw])) nofun
    refine ⟨fun e he => ?_, rest'⟩
    rcases List.mem_cons.1 he with rfl | he
    · exact arg _ (by simp)
    · exact more e he

/-- Every tree that a text spells is canonical. -/
theorem canonical_of_parse {source : String} {e : Expr} (h : parse source = .ok e) :
    e.Canonical := by
  obtain ⟨ws, scans, spells⟩ := parse_eq_ok_iff.1 h
  obtain ⟨ws', reads⟩ : ∃ ws', Reads (.level 0) ws [e] ws' := by
    rcases spells with reads | ⟨more, reads⟩ <;> exact ⟨_, reads⟩
  exact (reads.canonical scans.proper nofun).1 e (by simp)

end Formula

end Spreadsheet
