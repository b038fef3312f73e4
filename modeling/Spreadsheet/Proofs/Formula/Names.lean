import Spreadsheet.Proofs.Formula.Scanning

/-!
# `Proofs/Formula/Names.lean` — which texts are names, and what they are taken for

What a name is taken for depends on its text and on a parenthesis behind it, and on nothing else
that can stand behind it (`Taken`). So a name that was cut out of a formula is taken for the same
wherever it ends.

A name is a run of name characters, or two of them with a mark between, or a literal in
apostrophes, a mark and such a run (`IsName`). How far it goes is settled from the text alone, as
long as what follows neither goes on with it nor doubles its closing apostrophe
(`IsName.nameLength_append`), and the name that was cut out is one again (`isName_of_nameLength`).

Names of functions are put in capitals. Letters, digits and the characters that start names are
the same in capitals (`toUpper_spec`), so the name of a function remains one
(`IsFunctionName.upper`).
-/

set_option autoImplicit false

namespace Spreadsheet.Token

variable {offset n : Nat} {s u v z text : List Char} {kind : Kind} {mark c : Char}

/-! ## Texts between marks -/

/-- The text with each mark doubled. -/
abbrev double (mark : Char) (s : List Char) : List Char :=
  s.flatMap fun c => if c = mark then [mark, mark] else [c]

theorem closeLiteral_cons (other : c ≠ mark) (s : List Char) :
    closeLiteral mark (c :: s) = (closeLiteral mark s).map fun (text, n) => (c :: text, n + 1) := by
  cases s with
  | nil => simp [closeLiteral, other]
  | cons d s => simp [closeLiteral, other]

/-- A text whose marks are doubled goes up to the first mark that is not. -/
theorem closeLiteral_double (text : List Char) (single : z.head? ≠ some mark) :
    closeLiteral mark (double mark text ++ mark :: z) =
    some (text, (double mark text).length + 1) := by
  induction text with
  | nil =>
    cases z with
    | nil => simp [closeLiteral]
    | cons c z =>
      have other : c ≠ mark := by simpa using single
      simp [closeLiteral, other]
  | cons c text ih =>
    rw [double, List.flatMap_cons]
    split
    next same => simp [closeLiteral, ih, same]
    next other => simp [closeLiteral_cons other, ih]

/-- What stands behind the closing mark does not matter unless it doubles it. -/
theorem closeLiteral_append_of_some (closed : closeLiteral mark s = some (text, n))
    (single : n = s.length → z.head? ≠ some mark) :
    closeLiteral mark (s ++ z) = some (text, n) := by
  fun_induction closeLiteral mark s generalizing text n with
  | case1 | case3 => cases closed
  | case2 =>
    cases closed
    cases z with
    | nil => simp [closeLiteral]
    | cons d z =>
      have other : d ≠ mark := by simpa using single rfl
      simp [closeLiteral, other]
  | case4 rest ih =>
    obtain ⟨⟨text', n'⟩, closed', eq⟩ := Option.map_eq_some_iff.1 closed
    cases eq
    rw [List.cons_append, List.cons_append]
    simp [closeLiteral, ih closed' (by simpa using single)]
  | case5 d rest other =>
    cases closed
    simp [closeLiteral, other]
  | case6 c d rest other ih =>
    obtain ⟨⟨text', n'⟩, closed', eq⟩ := Option.map_eq_some_iff.1 closed
    cases eq
    rw [List.cons_append, closeLiteral_cons other, ih closed' (by simpa using single)]
    rfl

theorem closeLiteral_pos (closed : closeLiteral mark s = some (text, n)) : 0 < n := by
  fun_induction closeLiteral mark s generalizing text n with
  | case1 | case3 => cases closed
  | case2 | case5 =>
    cases closed
    exact Nat.one_pos
  | case4 | case6 =>
    obtain ⟨r, -, eq⟩ := Option.map_eq_some_iff.1 closed
    cases eq
    exact Nat.succ_pos _

/-- A literal that closes inside the text in front closes there by itself. -/
theorem closeLiteral_of_append (closed : closeLiteral mark (s ++ z) = some (text, n))
    (inside : n ≤ s.length) :
    closeLiteral mark s = some (text, n) := by
  fun_induction closeLiteral mark s generalizing text n with
  | case1 =>
    -- Nothing is in front, yet the literal takes up a place at least.
    have := closeLiteral_pos closed
    simp only [List.length_nil] at inside
    omega
  | case2 =>
    cases z with
    | nil => simpa [closeLiteral] using closed
    | cons d z =>
      -- A mark behind the last one would double it, and the literal would go beyond the text.
      by_cases same : d = mark
      · rw [List.cons_append, List.nil_append, closeLiteral, if_pos rfl, if_pos same] at closed
        obtain ⟨r, -, eq⟩ := Option.map_eq_some_iff.1 closed
        cases eq
        simp at inside
      · simpa [closeLiteral, same] using closed
  | case3 c other =>
    rw [List.cons_append, closeLiteral_cons other] at closed
    obtain ⟨r, closed', eq⟩ := Option.map_eq_some_iff.1 closed
    have := closeLiteral_pos closed'
    cases eq
    simp only [List.length_singleton] at inside
    omega
  | case4 rest ih =>
    rw [List.cons_append, List.cons_append, closeLiteral, if_pos rfl, if_pos rfl] at closed
    obtain ⟨⟨text', n'⟩, closed', eq⟩ := Option.map_eq_some_iff.1 closed
    cases eq
    rw [ih closed' (by simpa using inside), Option.map_some]
  | case5 d rest other => simpa [closeLiteral, other] using closed
  | case6 c d rest other ih =>
    rw [List.cons_append, closeLiteral_cons other] at closed
    obtain ⟨⟨text', n'⟩, closed', eq⟩ := Option.map_eq_some_iff.1 closed
    cases eq
    rw [ih closed' (by simpa using inside), Option.map_some]

/-! ## Names -/

/-- A text that is a name from end to end. -/
inductive IsName : List Char → Prop where
  | bare {u : List Char} (hu : ∀ c ∈ u, isNameChar c = true) : IsName u
  | ofSheet {u v : List Char} (hu : ∀ c ∈ u, isNameChar c = true)
      (hv : ∀ c ∈ v, isNameChar c = true) :
      IsName (u ++ '!' :: v)
  | ofQuoted {u v text : List Char} (closed : closeLiteral '\'' u = some (text, u.length))
      (hv : ∀ c ∈ v, isNameChar c = true) : IsName ('\'' :: (u ++ '!' :: v))

/-- A name that a text follows ends where that text starts. -/
def Ends (z : List Char) : Prop := ∀ c ∈ z.head?, isNameChar c = false ∧ c ≠ '!'

theorem Ends.stopsAt (ends : Ends z) : Text.StopsAt isNameChar z := fun c hc => (ends c hc).1

theorem nameRun_append_of_all (hu : ∀ c ∈ u, isNameChar c = true)
    (stops : Text.StopsAt isNameChar z) :
    nameRun (u ++ z) = u.length :=
  Text.length_takeWhile_append_eq_iff.2 ⟨hu, stops⟩

/-- A sheet, a mark and a run of name characters go up to where the run ends. -/
theorem bareNameLength_of_mark (hv : ∀ c ∈ v, isNameChar c = true)
    (hu : ∀ c ∈ u, isNameChar c = true) (ends : Ends z) :
    bareNameLength (u ++ '!' :: (v ++ z)) = (u ++ '!' :: v).length := by
  have mark : Text.StopsAt isNameChar ('!' :: (v ++ z)) := Text.stopsAt_cons.2 (by decide)
  unfold bareNameLength
  simp only [nameRun_append_of_all hu mark, List.drop_left, nameRun_append_of_all hv ends.stopsAt,
    List.length_append, List.length_cons]
  omega

/-- Only an apostrophe in front makes the name of a sheet a quoted one. -/
theorem nameLength_of_bare (h : s.head? ≠ some '\'') (offset : Nat) :
    nameLength offset s = .ok (bareNameLength s) := by
  unfold nameLength
  split
  next => simp at h
  next => rfl

/-- A name goes as far as it did, whatever stands behind it that does not go on with it. -/
theorem IsName.nameLength_append (name : IsName u) (nonempty : u ≠ []) (ends : Ends z)
    (offset : Nat) :
    nameLength offset (u ++ z) = .ok u.length := by
  cases name with
  | bare hu =>
    rw [nameLength_of_bare]
    · unfold bareNameLength
      simp only [nameRun_append_of_all hu ends.stopsAt, List.drop_left]
      cases z with
      | nil => rfl
      | cons c z =>
        have other : c ≠ '!' := (ends c rfl).2
        simp [other]
    · cases u with
      | nil => exact absurd rfl nonempty
      | cons c u =>
        intro quote
        cases quote
        exact absurd (hu '\'' (by simp)) (by decide)
  | @ofSheet u v hu hv =>
    rw [List.append_assoc, List.cons_append, nameLength_of_bare, bareNameLength_of_mark hv hu ends]
    cases u with
    | nil => simp
    | cons c u =>
      intro quote
      cases quote
      exact absurd (hu '\'' (by simp)) (by decide)
  | @ofQuoted u v text closed hv =>
    -- The mark of the sheet stands behind the closing apostrophe, so it is not doubled.
    have closed' := closeLiteral_append_of_some (z := '!' :: (v ++ z)) closed (by simp)
    have behind := bareNameLength_of_mark (u := []) hv nofun ends
    simp only [List.nil_append, List.length_cons] at behind
    simp only [List.cons_append, List.append_assoc, nameLength, closed', List.drop_left, behind]
    simp only [List.length_cons, List.length_append]
    congr 1
    omega

theorem exists_nameRun (s : List Char) :
    ∃ u z, s = u ++ z ∧ nameRun s = u.length ∧ ∀ c ∈ u, isNameChar c = true :=
  ⟨s.takeWhile isNameChar, s.dropWhile isNameChar, List.takeWhile_append_dropWhile.symm, rfl,
    fun _ => List.mem_takeWhile_imp⟩

theorem isName_take_bareNameLength (s : List Char) : IsName (s.take (bareNameLength s)) := by
  obtain ⟨u, z, rfl, run, hu⟩ := exists_nameRun s
  unfold bareNameLength
  simp only [run, List.drop_left]
  split
  next rest =>
    obtain ⟨v, z, rfl, run, hv⟩ := exists_nameRun rest
    have cut : u ++ '!' :: (v ++ z) = (u ++ '!' :: v) ++ z := by simp
    rw [run, cut, List.take_left' (by simp; omega)]
    exact .ofSheet hu hv
  next =>
    rw [List.take_left]
    exact .bare hu

/-- What is cut off as a name is one. -/
theorem isName_of_nameLength (h : nameLength offset s = .ok n) : IsName (s.take n) := by
  unfold nameLength at h
  split at h
  next rest =>
    split at h
    next => cases h
    next text m closed =>
      dsimp only at h
      split at h
      next more behind =>
        cases h
        have short := closeLiteral_le closed
        -- The literal is cut off first, then the mark and the run behind it.
        have cut : rest = rest.take m ++ '!' :: more := by rw [← behind, List.take_append_drop]
        have length : (rest.take m).length = m := by rw [List.length_take]; omega
        generalize rest.take m = u at cut length
        subst cut length
        obtain ⟨v, z, rfl, run, hv⟩ := exists_nameRun more
        rw [behind]
        have whole : bareNameLength ('!' :: (v ++ z)) = 1 + v.length := by
          have none : nameRun ('!' :: (v ++ z)) = 0 :=
            nameRun_append_of_all (u := []) nofun (Text.stopsAt_cons.2 (by decide))
          simp [bareNameLength, none, run]
        have cut : '\'' :: (u ++ '!' :: (v ++ z)) = ('\'' :: (u ++ '!' :: v)) ++ z := by simp
        rw [whole, cut, List.take_left' (by simp; omega)]
        exact .ofQuoted (closeLiteral_of_append closed (Nat.le_refl _)) hv
      next => cases h
      next => cases h
  next =>
    cases h
    exact isName_take_bareNameLength s

/-- What starts a name is part of it. -/
theorem nameLength_pos (h : nameLength offset (c :: s) = .ok n) (start : startsName c = true) :
    0 < n := by
  by_cases quote : c = '\''
  · subst quote
    rw [nameLength] at h
    split at h
    next => cases h
    next =>
      dsimp only at h
      split at h
      next =>
        cases h
        omega
      next => cases h
      next => cases h
  · have char : isNameChar c = true := by
      simp only [startsName, Bool.or_eq_true, beq_iff_eq] at start
      rcases start with ((letter | rfl) | rfl) | rfl
      · simp [isNameChar, Text.isAlphanumeric, show Text.alphabetic.contains c = true from letter]
      · decide
      · decide
      · exact absurd rfl quote
    rw [nameLength_of_bare (by simpa using quote)] at h
    cases h
    -- What starts a name is one of its characters, the apostrophe apart.
    have run : 0 < nameRun (c :: s) := by simp [nameRun, char]
    unfold bareNameLength
    dsimp only
    split <;> omega

/-! ## What names are taken for -/

/-- The characters that can follow an operand. -/
def boundaries : List Char := [' ', ')', ',', '+', '-', '*', '/', '^', '&']

/-- A text that can follow an operand. -/
def Boundary (z : List Char) : Prop := ∀ c ∈ z.head?, c ∈ boundaries

/-- Only a few characters can follow an operand. -/
theorem Boundary.head?_ne (boundary : Boundary z) (other : c ∉ boundaries) : z.head? ≠ some c :=
  fun h => other (boundary c h)

theorem Boundary.stopsAt {p : Char → Bool} (boundary : Boundary z)
    (other : (boundaries.all fun c => !p c) = true) :
    Text.StopsAt p z := by
  intro c hc
  simpa using List.all_eq_true.1 other c (boundary c hc)

theorem Boundary.ends (boundary : Boundary z) : Ends z := by
  have all : (boundaries.all fun c => !isNameChar c && c != '!') = true := by decide
  intro c hc
  simpa using List.all_eq_true.1 all c (boundary c hc)

/-- A text that is taken for a kind of name, unless a parenthesis follows. -/
inductive Taken : Kind → List Char → Prop where
  | cell {u : List Char} (hu : IsName u) (shaped : isCellShaped u = true) : Taken .cell u
  | range {u v : List Char} (hu : IsName u) (shaped : isCellShaped u = true) (hv : IsName v)
      (shaped' : isCellShaped v = true) (corner : v.head?.any startsCorner = true) :
      Taken .range (u ++ ':' :: v)
  | other {u : List Char} (hu : IsName u) (shapeless : isCellShaped u = false) :
      Taken (classify u []) u

/-- Without a parenthesis behind it a name is classified by its text alone. -/
theorem classify_of_head? (text : List Char) (head : z.head? ≠ some '(') :
    classify text z = classify text [] := by
  simp [classify, head]

/-- What is neither a cell nor a range is the name of a function, a truth value or any other
name. -/
theorem classify_cases (u z : List Char) :
    classify u z = .function ∨ (∃ b, classify u z = .bool b) ∨ classify u z = .name := by
  unfold classify
  dsimp only
  split
  next => exact .inl rfl
  next =>
    split
    next => exact .inr (.inl ⟨true, rfl⟩)
    next =>
      split
      next => exact .inr (.inl ⟨false, rfl⟩)
      next => exact .inr (.inr rfl)

theorem ne_nil_of_isCellShaped (shaped : isCellShaped u = true) : u ≠ [] := by
  rintro rfl
  cases shaped

/-- A name that was cut out is taken for the same, wherever it ends. -/
theorem Taken.name_append (taken : Taken kind u) (nonempty : u ≠ []) (ends : Ends z)
    (colon : z.head? ≠ some ':') (uncalled : classify u [] = kind → classify u z = kind)
    (offset : Nat) :
    name offset (u ++ z) = .ok (kind, u.length) := by
  unfold name
  cases taken with
  | cell hu shaped =>
    simp only [hu.nameLength_append nonempty ends, List.take_left, List.drop_left, shaped, if_true]
    split
    next => exact absurd rfl colon
    next => rfl
  | @range u v hu shaped hv shaped' corner =>
    cases v with
    | nil => cases corner
    | cons c v =>
      -- The first corner ends at the colon.
      have behind : Ends (':' :: (c :: v ++ z)) := by
        intro d hd
        cases hd
        decide
      have second := hv.nameLength_append (List.cons_ne_nil c v) ends
      have start : startsCorner c = true := by simpa using corner
      rw [List.append_assoc, List.cons_append]
      simp only [hu.nameLength_append (ne_nil_of_isCellShaped shaped) behind, List.take_left,
        List.drop_left, shaped, if_true]
      simp only [List.cons_append] at second ⊢
      have cut : (c :: (v ++ z)).take (c :: v).length = c :: v := List.take_left
      simp only [start, if_true, second]
      rw [cut, if_pos shaped', List.length_append, List.length_cons, Nat.add_right_comm,
        Nat.add_assoc]
      rfl
  | other hu shapeless =>
    simp only [hu.nameLength_append nonempty ends, List.take_left, List.drop_left, shapeless,
      uncalled rfl]
    rfl

theorem Taken.name_of_boundary (taken : Taken kind u) (nonempty : u ≠ []) (boundary : Boundary z)
    (offset : Nat) :
    name offset (u ++ z) = .ok (kind, u.length) := by
  have uncalled : classify u z = classify u [] :=
    classify_of_head? u (boundary.head?_ne (by decide))
  exact taken.name_append nonempty boundary.ends
    (boundary.head?_ne (by decide)) uncalled.trans offset

/-- A first corner, a colon and a second one make up the text of a range. -/
theorem take_of_corners {m m' : Nat} (behind : s.drop m = ':' :: c :: u) (short : m ≤ s.length) :
    s.take (m + 1 + m') = s.take m ++ ':' :: (c :: u).take m' := by
  have cut : s = s.take m ++ ':' :: (c :: u) := by rw [← behind, List.take_append_drop]
  have length : (s.take m).length = m := by rw [List.length_take]; omega
  generalize s.take m = first at cut length
  subst cut length
  rw [Nat.add_assoc, List.take_length_add_append, Nat.add_comm 1, List.take_succ_cons]

/-- A name that is not called is taken for what its text says. -/
theorem classify_of_ne_function (other : classify u z ≠ .function) :
    classify u z = classify u [] := by
  unfold classify at other ⊢
  dsimp only at other ⊢
  split
  next called => exact absurd (if_pos called) other
  next => simp

/-- What the lexer takes for something other than a function is taken for it by its text. -/
theorem taken_of_name (h : name offset s = .ok (kind, n)) (other : kind ≠ .function) :
    Taken kind (s.take n) := by
  obtain ⟨m, found, cases⟩ := name_cases h
  have first := isName_of_nameLength found
  obtain ⟨shaped, rfl, rfl⟩ | ⟨shaped, rfl, c, rest, _, m', behind, corner, found', shaped', rfl⟩ |
    ⟨shapeless, rfl, rfl⟩ := cases
  · exact .cell first shaped
  · rw [take_of_corners behind (nameLength_le found)]
    -- The second corner is not empty, since a corner starts with a character of names.
    have some : 0 < m' := nameLength_pos found' (Text.startsName_of_startsCorner corner)
    refine .range first shaped (isName_of_nameLength found') shaped' ?_
    cases m' with
    | zero => cases some
    | succ k => simpa using corner
  · rw [classify_of_ne_function other]
    exact .other first shapeless

theorem name_pos (h : name offset (c :: s) = .ok (kind, n)) (start : startsName c = true) :
    0 < n := by
  obtain ⟨m, found, cases⟩ := name_cases h
  have some := nameLength_pos found start
  obtain ⟨-, -, rfl⟩ | ⟨-, -, _, _, _, m', -, -, -, -, rfl⟩ | ⟨-, -, rfl⟩ := cases
  · exact some
  · omega
  · exact some

/-! ## Names of functions -/

/-- A text that is taken for the name of a function when a parenthesis follows. -/
structure IsFunctionName (u : List Char) : Prop where
  chars : ∀ c ∈ u, isNameChar c = true ∧ c ≠ '$'
  shapeless : isCellShaped u = false

/-- A function has no sheet, no dollar sign and no quotes in its name, and is called. -/
theorem classify_eq_function (h : classify u z = .function) :
    (∀ c ∈ u, c ≠ '!' ∧ c ≠ '$' ∧ c ≠ '\'') ∧ z.head? = some '(' := by
  unfold classify at h
  dsimp only at h
  split at h
  next called =>
    obtain ⟨plain, opens⟩ := Bool.and_eq_true_iff.1 called
    exact ⟨by simpa [not_or, and_assoc] using plain, by simpa using opens⟩
  next =>
    split at h
    next => cases h
    next => split at h <;> cases h

/-- What the lexer takes for a function has the name of one. -/
theorem isFunctionName_of_name (h : name offset s = .ok (.function, n)) :
    IsFunctionName (s.take n) := by
  -- What is shaped like a cell is taken for a cell or a range.
  obtain ⟨m, found, ⟨-, cell, -⟩ | ⟨-, range, -⟩ | ⟨shapeless, called, rfl⟩⟩ := name_cases h
  · cases cell
  · cases range
  have named := isName_of_nameLength found
  generalize s.take n = u at *
  obtain ⟨others, -⟩ := classify_eq_function called.symm
  -- A name with a sheet in it has a mark or an apostrophe, and no such name is called.
  have chars : ∀ c ∈ u, isNameChar c = true := by
    cases named with
    | bare hu => exact hu
    | ofSheet => exact absurd rfl (others '!' (by simp)).1
    | ofQuoted => exact absurd rfl (others '\'' (by simp)).2.2
  exact ⟨fun c hc => ⟨chars c hc, (others c hc).2.1⟩, shapeless⟩

/-- The name of a function is taken for one in front of a parenthesis. -/
theorem IsFunctionName.name_append (called : IsFunctionName u) (nonempty : u ≠ []) (offset : Nat)
    (z : List Char) :
    name offset (u ++ '(' :: z) = .ok (.function, u.length) := by
  have ends : Ends ('(' :: z) := by
    intro c hc
    cases hc
    decide
  -- Neither a mark, nor a dollar sign, nor an apostrophe: the parenthesis alone decides.
  have plain : (u.any fun c => c == '!' || c == '$' || c == '\'') = false := by
    simp only [List.any_eq_false, Bool.or_eq_true, beq_iff_eq]
    rintro c hc ((rfl | rfl) | rfl)
    · exact absurd (called.chars _ hc).1 (by decide)
    · exact (called.chars _ hc).2 rfl
    · exact absurd (called.chars _ hc).1 (by decide)
  have named : IsName u := .bare fun c hc => (called.chars c hc).1
  unfold name
  simp only [named.nameLength_append nonempty ends, List.take_left, List.drop_left,
    called.shapeless, classify, plain]
  rfl

/-- Capital letters are what small ones are. -/
theorem toUpper_spec (c : Char) :
    isNameChar c.toUpper = isNameChar c ∧ startsName c.toUpper = startsName c ∧
      c.toUpper.isAlpha = c.isAlpha ∧
      c.toUpper.isDigit = c.isDigit ∧ (c.toUpper == '$') = (c == '$') := by
  -- Only small letters change, which are below 128, so that all of them can be gone through.
  have all : (Text.ascii.all fun c => isNameChar c.toUpper == isNameChar c &&
    startsName c.toUpper == startsName c &&
      c.toUpper.isAlpha == c.isAlpha && c.toUpper.isDigit == c.isDigit &&
      (c.toUpper == '$') == (c == '$')) = true := by
    decide
  by_cases small : 'a'.val ≤ c.val ∧ c.val ≤ 'z'.val
  · have short : c.toNat < 128 := by
      have := UInt32.le_iff_toNat_le.1 small.2
      have last : 'z'.val.toNat = 122 := rfl
      show c.val.toNat < 128
      omega
    simpa [and_assoc] using Text.of_ascii all short
  · have same : c.toUpper = c := by
      unfold Char.toUpper
      exact dif_neg small
    simp [same]

/-- Without an exclamation mark in it, what is put behind a text goes on with its last part. -/
theorem localPart_append (marks : '!' ∉ z) (s : List Char) :
    localPart (s ++ z) = localPart s ++ z := by
  have all : ∀ c ∈ z.reverse, (c != '!') = true := by
    intro c hc
    simp only [bne_iff_ne, ne_eq]
    rintro rfl
    exact marks (List.mem_reverse.1 hc)
  unfold localPart
  rw [List.reverse_append, List.takeWhile_append_of_pos all, List.reverse_append,
    List.reverse_reverse]

/-- Without an exclamation mark a name has no other part. -/
theorem localPart_of_no_mark (marks : '!' ∉ u) : localPart u = u := localPart_append marks []

/-- Without a sheet and dollar signs the shape of a cell is letters and then digits. -/
theorem isCellShaped_of_plain (plain : ∀ c ∈ u, c ≠ '!' ∧ c ≠ '$') :
    isCellShaped u = (u.takeWhile Char.isAlpha != [] && u.dropWhile Char.isAlpha != [] &&
      (u.dropWhile Char.isAlpha).all Char.isDigit) := by
  have whole : localPart u = u := localPart_of_no_mark fun mark => (plain '!' mark).1 rfl
  have undone : ∀ {s : List Char}, (∀ c ∈ s, c ∈ u) → dropDollar s = s := by
    intro s sub
    cases s with
    | nil => rfl
    | cons c s =>
      have other : c ≠ '$' := (plain c (sub c (by simp))).2
      simp [dropDollar, other]
  unfold isCellShaped
  rw [whole, undone fun c hc => hc, List.span_eq_takeWhile_dropWhile]
  dsimp only
  rw [undone fun c => (List.dropWhile_suffix _).mem]

/-- The name of a function is one in capitals, too. -/
theorem IsFunctionName.upper (called : IsFunctionName u) : IsFunctionName (u.map Char.toUpper) := by
  have chars : ∀ c ∈ u.map Char.toUpper, isNameChar c = true ∧ c ≠ '$' := by
    intro c hc
    obtain ⟨d, hd, rfl⟩ := List.mem_map.1 hc
    obtain ⟨name, -, -, -, dollar⟩ := toUpper_spec d
    have char := called.chars d hd
    refine ⟨name.trans char.1, fun same => char.2 ?_⟩
    simpa [same] using dollar
  have noMark : ∀ {v : List Char}, (∀ c ∈ v, isNameChar c = true ∧ c ≠ '$') →
    ∀ c ∈ v, c ≠ '!' ∧ c ≠ '$' := by
    rintro v chars c hc
    refine ⟨?_, (chars c hc).2⟩
    rintro rfl
    exact absurd (chars _ hc).1 (by decide)
  have alpha : Char.isAlpha ∘ Char.toUpper = Char.isAlpha := funext fun c => (toUpper_spec c).2.2.1
  have digit : Char.isDigit ∘ Char.toUpper = Char.isDigit :=
    funext fun c => (toUpper_spec c).2.2.2.1
  have nonempty : ∀ s : List Char, (s.map Char.toUpper != []) = (s != []) := by
    intro s
    cases s <;> rfl
  refine ⟨chars, ?_⟩
  -- The shape is asked for by letters and digits, which capitals leave alone.
  have shapeless := called.shapeless
  rw [isCellShaped_of_plain (noMark called.chars)] at shapeless
  rw [isCellShaped_of_plain (noMark chars), List.takeWhile_map, List.dropWhile_map, List.all_map,
    alpha, digit, nonempty, nonempty]
  exact shapeless

end Spreadsheet.Token
