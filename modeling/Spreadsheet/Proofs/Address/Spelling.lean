import Spreadsheet.Address.Reader
import Spreadsheet.Proofs.Text.Characters
import Spreadsheet.Proofs.Text.Run

/-!
# `Proofs/Address/Spelling.lean` — how the place of a cell is spelled

A column and a row are spelled by one to three letters and by digits, in front of either of which
a dollar sign may stand (`Spelling`). A text without blanks around it that spells a place names no
sheet, and it is read as that place; what is read as a place is spelled like that
(`Position.ofText?_eq_some_iff`).

A spelling carries what its parts may be, so that reading it never fails for a reason that is not
about the limits. The parts meet where a letter, a digit or a dollar sign cannot be taken for one
another, and this alone makes the way a text falls apart the only one (`cut_place`).
-/

set_option autoImplicit false

namespace Spreadsheet

/-- A text that is not taken apart is no sheet's name and goes on whole. -/
theorem SheetName.eq_of_split?_none {s rest : List Char} (h : split? s = some (none, rest)) :
    rest = s := by
  unfold split? at h
  split at h
  · split at h <;> cases h
  · split at h
    · split at h <;> cases h
    · cases h
      rfl

theorem SheetName.split?_of_no_mark {s : List Char} (mark : '!' ∉ s) (quote : s.head? ≠ some '\'') :
    split? s = some (none, s) := by
  unfold split?
  split
  next => simp at quote
  next =>
    split
    next c name after cut =>
      rw [List.span_eq_takeWhile_dropWhile, Prod.mk.injEq] at cut
      have mem : '!' ∈ s.dropWhile isPlainChar := by simp [cut.2]
      exact absurd ((List.dropWhile_suffix _).mem mem) mark
    next => rfl

namespace Address

/-! ## Dollar signs -/

/-- A dollar sign, if there is one. -/
def dollarSign (fixed : Bool) : List Char := if fixed then ['$'] else []

theorem dollarSign_append_dollar (s : List Char) : dollarSign (dollar s).1 ++ (dollar s).2 = s := by
  unfold dollar
  split <;> rfl

theorem dollar_append (fixed : Bool) {s : List Char} (h : s.head? ≠ some '$') :
    dollar (dollarSign fixed ++ s) = (fixed, s) := by
  cases fixed with
  | true => rfl
  | false =>
    cases s with
    | nil => rfl
    | cons c s =>
      have other : c ≠ '$' := by simpa using h
      simp [dollar, dollarSign, other]

section
variable {columnFixed rowFixed : Bool} {letters digits : List Char}

/-- How a column and a row fall apart. -/
theorem cut_place (columnFixed rowFixed : Bool) (isLetter : ∀ c ∈ letters, Column.isLetter c = true)
    (named : letters ≠ []) (isDigit : ∀ c ∈ digits, c.isDigit = true) (numbered : digits ≠ []) :
    dollar (dollarSign columnFixed ++ (letters ++ (dollarSign rowFixed ++ digits))) =
        (columnFixed, letters ++ (dollarSign rowFixed ++ digits)) ∧
      (letters ++ (dollarSign rowFixed ++ digits)).span Column.isLetter =
      (letters, dollarSign rowFixed ++ digits) ∧
      dollar (dollarSign rowFixed ++ digits) = (rowFixed, digits) := by
  have second : digits.head? ≠ some '$' := by
    rw [← List.append_nil digits]
    exact Text.head?_append_ne isDigit numbered (by decide)
  -- The letters end where the row starts: at a dollar sign or at a digit.
  have stops : Text.StopsAt Column.isLetter (dollarSign rowFixed ++ digits) := by
    apply Text.stopsAt_of_forall
    intro c hc
    rcases List.mem_append.1 hc with hc | hc
    · unfold dollarSign at hc
      split at hc
      · rw [List.mem_singleton.1 hc]
        decide
      · cases hc
    · exact Text.not_isAlpha_of_isDigit (isDigit c hc)
  refine ⟨dollar_append _ ?_, Text.span_append isLetter stops, dollar_append _ second⟩
  exact Text.head?_append_ne isLetter named (by decide)

/-- A column and a row are made of characters of names. -/
theorem isNameChar_of_mem_place (isLetter : ∀ c ∈ letters, Column.isLetter c = true)
    (isDigit : ∀ c ∈ digits, c.isDigit = true) {c : Char}
    (h : c ∈ dollarSign columnFixed ++ (letters ++ (dollarSign rowFixed ++ digits))) :
    Token.isNameChar c = true := by
  have dollar : ∀ {fixed : Bool}, c ∈ dollarSign fixed → Token.isNameChar c = true := by
    intro fixed h
    unfold dollarSign at h
    split at h
    · rw [List.mem_singleton.1 h]
      decide
    · cases h
  rcases List.mem_append.1 h with h | h
  · exact dollar h
  rcases List.mem_append.1 h with h | h
  · exact Text.isNameChar_of_isAlphanum (Text.isAlphanum_of_isAlpha (isLetter c h))
  rcases List.mem_append.1 h with h | h
  · exact dollar h
  · exact Text.isNameChar_of_isAlphanum (Text.isAlphanum_of_isDigit (isDigit c h))

end

/-! ## Spellings -/

/-- Letters and digits that spell the place of a cell, and where there is a dollar sign. -/
structure Spelling where
  columnFixed : Bool
  letters : List Char
  rowFixed : Bool
  digits : List Char
  named : 1 ≤ letters.length
  short : letters.length ≤ 3
  isLetter : ∀ c ∈ letters, Column.isLetter c = true
  isDigit : ∀ c ∈ digits, c.isDigit = true
  positive : 1 ≤ Decimal.ofDigits digits
  bounded : Decimal.ofDigits digits ≤ rowLimit

namespace Spelling

variable (w : Spelling)

/-- The text. -/
def chars : List Char :=
  dollarSign w.columnFixed ++ (w.letters ++ (dollarSign w.rowFixed ++ w.digits))

/-- The address that is spelled, on some sheet. -/
def address (sheet : Option String) : Address :=
  ⟨sheet, Decimal.ofDigits w.digits - 1, Column.value w.letters - 1, w.rowFixed, w.columnFixed⟩

/-- The place that is spelled. -/
def position : Position := ⟨Decimal.ofDigits w.digits - 1, Column.value w.letters - 1⟩

theorem letters_ne_nil : w.letters ≠ [] := List.length_pos_iff.1 w.named

theorem digits_ne_nil : w.digits ≠ [] := by
  intro empty
  have := w.positive
  rw [empty] at this
  exact absurd this (by decide)

theorem local?_chars (sheet : Option String) : local? sheet w.chars = some (w.address sheet) := by
  obtain ⟨first, span, second⟩ :=
    cut_place w.columnFixed w.rowFixed w.isLetter w.letters_ne_nil w.isDigit w.digits_ne_nil
  have digits : w.digits.all Char.isDigit = true := List.all_eq_true.2 w.isDigit
  unfold local? chars
  simp only [first, span, second]
  exact if_pos ⟨w.named, w.short, w.digits_ne_nil, digits, w.positive, w.bounded⟩

/-- What is read as an address is spelled like that. -/
theorem exists_of_local? {sheet : Option String} {s : List Char} {a : Address}
    (h : local? sheet s = some a) :
    ∃ w : Spelling, s = w.chars ∧ a = w.address sheet := by
  unfold local? at h
  dsimp only at h
  rw [List.span_eq_takeWhile_dropWhile] at h
  split at h
  next form =>
    obtain ⟨named, short, -, digits, positive, bounded⟩ := form
    cases h
    refine ⟨⟨_, _, _, _, named, short, fun _ => List.mem_takeWhile_imp, List.all_eq_true.1 digits,
      positive, bounded⟩, ?_, rfl⟩
    unfold chars
    rw [dollarSign_append_dollar, List.takeWhile_append_dropWhile, dollarSign_append_dollar]
  next => cases h

theorem not_mem_chars {c : Char} (other : Token.isNameChar c = false) : c ∉ w.chars := by
  intro mem
  rw [isNameChar_of_mem_place w.isLetter w.isDigit mem] at other
  cases other

theorem chars_ne_nil : w.chars ≠ [] := by
  intro empty
  have digits : w.digits = [] := by
    unfold chars at empty
    simp only [List.append_eq_nil_iff] at empty
    exact empty.2.2.2
  exact w.digits_ne_nil digits

end Spelling

end Address

/-- **A place is read from its spellings, and only from them**, blanks at the ends apart. -/
theorem Position.ofText?_eq_some_iff {s : String} {p : Position} :
    Position.ofText? s = some p ↔ ∃ w : Address.Spelling, Text.trim s.toList = w.chars ∧
    w.position = p := by
  unfold Position.ofText? Address.ofText? Address.ofChars?
  constructor
  · intro h
    split at h
    next a read =>
      split at h
      next own =>
        split at read
        next sheet rest cut =>
          obtain ⟨w, rfl, rfl⟩ := Address.Spelling.exists_of_local? read
          obtain rfl : sheet = none := by simpa [Address.Spelling.address] using own
          refine ⟨w, (SheetName.eq_of_split?_none cut).symm, ?_⟩
          exact Option.some.inj h
        next => cases read
      next => cases h
    next => cases h
  · rintro ⟨w, spelled, rfl⟩
    -- A place has neither a mark nor an apostrophe in it, so no sheet is cut off in front of it.
    have uncut : SheetName.split? w.chars = some (none, w.chars) :=
      SheetName.split?_of_no_mark (w.not_mem_chars (by decide)) fun quote =>
        w.not_mem_chars (by decide) (List.mem_of_mem_head? quote)
    rw [spelled, uncut]
    simp only [Option.map_none, w.local?_chars]
    rfl

end Spreadsheet
