import Spreadsheet.Input
import Spreadsheet.Proofs.Text.Run

/-!
# `Proofs/Text/Input.lean` — what is typed again

An input is classified by how it starts and ends, once the blanks around it are gone. Texts, truth
values and formulas are classified as what they were when they are typed the way they are written
for editing: a text that would be taken for anything else is written in quotes, whatever stands in
it, and the blanks that a formula could end with are gone since it was classified first.

The cases are those of the first character: an equals sign, a quote, or another. Numbers come last
in this, and whether one is read back depends on what its text looks like, which is shown
elsewhere.
-/

set_option autoImplicit false

namespace Spreadsheet.Input

/-! ## Formulas -/

/-- What is typed with an equals sign in front is the formula behind it, without the blanks at its
end. -/
theorem classify_equals (s : String) :
    classify ("=" ++ s) = .formula (String.ofList (Text.trimEnd s.toList)) := by
  have visible : Text.isBlank '=' = false := by decide
  unfold classify Text.trim Text.trimStart
  rw [String.toList_append]
  show ofTrimmed (Text.trimEnd (('=' :: s.toList).dropWhile Text.isBlank)) = _
  rw [List.dropWhile_cons, if_neg (by simp [visible]), Text.trimEnd_cons visible]
  rfl

/-- A formula comes from a text that starts with an equals sign. -/
theorem ofTrimmed_eq_formula {s : List Char} {source : String} (h : ofTrimmed s = .formula source) :
    s = '=' :: source.toList := by
  unfold ofTrimmed at h
  split at h
  · cases h
  · cases h
    rw [String.toList_ofList]
  · split at h <;> cases h

/-- A formula is typed again as itself. -/
theorem classify_write_formula {s source : String} (h : classify s = .formula source) :
    classify (write (.formula source)) = .formula source := by
  have visible : Text.isBlank '=' = false := by decide
  have start : Text.trim s.toList = '=' :: source.toList := ofTrimmed_eq_formula h
  have trimmed := Text.trim_trim s.toList
  rw [start, Text.trim, Text.trimStart, List.dropWhile_cons, if_neg (by simp [visible]),
    Text.trimEnd_cons visible, List.cons_inj_right] at trimmed
  rw [write, classify_equals, trimmed, String.ofList_toList]

/-! ## Texts -/

/-- What does not start with an equals sign is the text between its quotes, or what it is without
quotes. -/
theorem ofTrimmed_cons {c : Char} (equals : c ≠ '=') (rest : List Char) : ofTrimmed (c :: rest) =
    .literal (((unquote? (c :: rest)).map fun text => .text (String.ofList text)).getD
      (ofPlain (c :: rest))) := by
  unfold ofTrimmed
  split
  next eq => cases eq
  next eq => exact absurd (List.cons.inj eq).1 equals
  next => cases unquote? (c :: rest) <;> rfl

theorem unquote?_quoted (s : List Char) : unquote? ('"' :: (s ++ ['"'])) = some s := by
  unfold unquote?
  simp

/-- What is typed in quotes is the text between them. -/
theorem classify_quoted (s : String) : classify ("\"" ++ s ++ "\"") = .literal (.text s) := by
  have visible : Text.isBlank '"' = false := by decide
  have shape : ("\"" ++ s ++ "\"").toList = '"' :: (s.toList ++ ['"']) := by
    rw [String.toList_append, String.toList_append]
    rfl
  have trimmed : Text.trim ('"' :: (s.toList ++ ['"'])) = '"' :: (s.toList ++ ['"']) := by
    refine Text.trim_of_visible (Text.stopsAt_cons.2 visible) ?_
    rw [List.reverse_cons, List.reverse_append]
    exact Text.stopsAt_cons.2 visible
  rw [classify, shape, trimmed, ofTrimmed_cons (by decide), unquote?_quoted, Option.map_some,
    Option.getD_some, String.ofList_toList]

/-- A text is typed again as itself. -/
theorem classify_write_text (s : String) :
    classify (write (.literal (.text s))) = .literal (.text s) := by
  show classify (if isPlainText s then s else "\"" ++ s ++ "\"") = _
  split
  next plain =>
    unfold isPlainText at plain
    split at plain
    next t eq =>
      rw [eq, beq_iff_eq.1 plain]
    next => cases plain
  next => exact classify_quoted s

/-! ## Truth values -/

/-- A truth value is typed again as itself. -/
theorem classify_write_bool (b : Bool) :
    classify (write (.literal (.bool b))) = .literal (.bool b) := by
  cases b <;> rfl

/-! ## Numbers -/

/-- What spells a finite number is that number, if neither blanks nor an equals sign nor quotes
stand at its ends. -/
theorem classify_number {s : String} {x : Float}
    (first : ∀ c ∈ s.toList.head?, Text.isBlank c = false ∧ c ≠ '=' ∧ c ≠ '"')
    (last : Text.StopsAt Text.isBlank s.toList.reverse) (number : Decimal.number? s.toList = some x)
    (finite : x.isFinite = true) : classify s = .literal (.number x) := by
  have trimmed := Text.trim_of_visible (fun c hc => (first c hc).1) last
  unfold classify
  rw [trimmed]
  -- The first character rules out a formula and a quoted text; what is left is read as a number
  -- first.
  cases hs : s.toList with
  | nil =>
    rw [hs] at number
    cases (show Decimal.number? [] = none from rfl).symm.trans number
  | cons c rest =>
    rw [hs] at number first
    obtain ⟨-, equals, quotes⟩ := first c rfl
    have unquoted : unquote? (c :: rest) = none := by
      unfold unquote?
      split
      next eq => exact absurd (List.cons.inj eq).1 quotes
      next => rfl
    rw [ofTrimmed_cons equals, unquoted, Option.map_none, Option.getD_none, ofPlain, number,
      Option.filter_some, if_pos finite]

theorem isFinite_of_ofPlain {s : List Char} {x : Float} (h : ofPlain s = .number x) :
    x.isFinite = true := by
  unfold ofPlain at h
  split at h
  next y number =>
    cases h
    exact (Option.filter_eq_some_iff.1 number).2
  next =>
    dsimp only at h
    split at h
    · cases h
    split at h <;> cases h

/-- Numbers that are typed are finite. -/
theorem isFinite_of_classify {s : String} {x : Float} (h : classify s = .literal (.number x)) :
    x.isFinite = true := by
  unfold classify at h
  cases hs : Text.trim s.toList with
  | nil =>
    rw [hs] at h
    cases h
  | cons c rest =>
    rw [hs] at h
    -- Formulas and quoted texts are no numbers.
    by_cases equals : c = '='
    · subst equals
      cases h
    · rw [ofTrimmed_cons equals] at h
      cases unquoted : unquote? (c :: rest) with
      | some text =>
        rw [unquoted] at h
        cases h
      | none =>
        rw [unquoted] at h
        exact isFinite_of_ofPlain (Input.literal.inj h)

end Spreadsheet.Input
