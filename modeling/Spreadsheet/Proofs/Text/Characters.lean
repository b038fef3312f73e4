import Spreadsheet.Address.Basic
import Spreadsheet.Formula.Lexer

/-!
# `Proofs/Text/Characters.lean` — which characters mean what to the reader of formulas

A few facts about single characters carry the proofs about texts: a blank is no part of any token,
and the characters that written formulas are made of are what they seem.

Sets of characters are given by their bounds and can be decided for a given character only. A fact
about all characters of one byte is shown by going through these (`of_ascii`), and one about
blanks by going through the blanks (`mem_blanks`). Beyond them nothing is said of letters and
numerals of other scripts; they may stand in names, and no proof depends on which they are.
-/

set_option autoImplicit false

namespace Spreadsheet.Text

/-! ## Membership -/

theorem CharSet.contains_nil (c : Char) : CharSet.contains ⟨[]⟩ c = false := rfl

/-- A set is decided stretch by stretch. -/
theorem CharSet.contains_cons_cons (a b : Nat) (bounds : List Nat) (c : Char) :
    CharSet.contains ⟨a :: b :: bounds⟩ c =
      if c.toNat < a then false else if c.toNat < b then true else CharSet.contains ⟨bounds⟩ c := by
  unfold CharSet.contains
  by_cases ha : c.toNat < a
  · simp [ha, Nat.not_le.2 ha]
  · by_cases hb : c.toNat < b
    · simp [ha, hb, Nat.not_lt.1 ha, Nat.not_le.2 hb]
    · have more : ((bounds.takeWhile (· ≤ c.toNat)).length + 2) % 2 =
        (bounds.takeWhile (· ≤ c.toNat)).length % 2 := by
        omega
      simp [ha, hb, Nat.not_lt.1 ha, Nat.not_lt.1 hb, more]

/-- The blanks, one by one. -/
def blanks : List Char :=
  [0x9, 0xA, 0xB, 0xC, 0xD, 0x20, 0x85, 0xA0, 0x1680, 0x2000, 0x2001, 0x2002, 0x2003, 0x2004,
    0x2005, 0x2006, 0x2007, 0x2008, 0x2009, 0x200A, 0x2028, 0x2029, 0x202F, 0x205F,
    0x3000].map Char.ofNat

theorem mem_blanks {c : Char} (h : isBlank c = true) : c ∈ blanks := by
  have code : c.toNat ∈ [0x9, 0xA, 0xB, 0xC, 0xD, 0x20, 0x85, 0xA0, 0x1680, 0x2000, 0x2001, 0x2002,
    0x2003, 0x2004,
      0x2005, 0x2006, 0x2007, 0x2008, 0x2009, 0x200A, 0x2028, 0x2029, 0x202F, 0x205F, 0x3000] := by
    unfold isBlank whiteSpace at h
    simp only [CharSet.contains_cons_cons, CharSet.contains_nil] at h
    simp only [List.mem_cons, List.not_mem_nil, or_false]
    simp only [Bool.if_false_left, Bool.if_true_left, Bool.and_eq_true, Bool.or_eq_true,
      Bool.not_eq_true', decide_eq_true_eq, decide_eq_false_iff_not, Bool.or_false] at h
    omega
  rw [← Char.ofNat_toNat c]
  exact List.mem_map_of_mem code

/-- No blank is part of a numeral or a name, nor can one follow a character that it would make a
difference to. -/
theorem blank_breaks {c : Char} (h : isBlank c = true) :
    c.isDigit = false ∧ Token.isNameChar c = false ∧ Token.startsName c = false ∧
      Token.startsCorner c = false ∧
      c ∉ ['.', 'e', 'E', '+', '-', '!', ':', '(', '\'', '"', '=', '>'] := by
  have all : (blanks.all fun c => !c.isDigit && !Token.isNameChar c && !Token.startsName c &&
    !Token.startsCorner c &&
      !(['.', 'e', 'E', '+', '-', '!', ':', '(', '\'', '"', '=', '>'].contains c)) = true := by
    decide +kernel
  simpa [and_assoc] using List.all_eq_true.1 all c (mem_blanks h)

/-! ## Letters and digits -/

section
variable {c : Char}

/-- The characters that take one byte. -/
def ascii : List Char := (List.range 128).map Char.ofNat

/-- What holds of each character of one byte, gone through one by one. -/
theorem of_ascii {p : Char → Bool} (all : ascii.all p = true) (short : c.toNat < 128) :
    p c = true := by
  apply List.all_eq_true.1 all
  rw [← Char.ofNat_toNat c]
  exact List.mem_map_of_mem (List.mem_range.2 short)

theorem toNat_lt_of_isAlphanum (h : c.isAlphanum = true) : c.toNat < 128 := by
  have h : ((decide (c.val ≥ 'A'.val ∧ c.val ≤ 'Z'.val) || (c.val ≥ 'a'.val && c.val ≤ 'z'.val)) ||
      c.val ≥ '0'.val && c.val ≤ '9'.val) = true := h
  simp only [Bool.or_eq_true, Bool.and_eq_true, decide_eq_true_eq, ge_iff_le,
    UInt32.le_iff_toNat_le] at h
  have last : 'Z'.val.toNat = 90 ∧ 'z'.val.toNat = 122 ∧ '9'.val.toNat = 57 := ⟨rfl, rfl, rfl⟩
  show c.val.toNat < 128
  omega

theorem isAlphanum_of_isAlpha (h : c.isAlpha = true) : c.isAlphanum = true := by
  simp [Char.isAlphanum, h]

theorem isAlphanum_of_isDigit (h : c.isDigit = true) : c.isAlphanum = true := by
  simp [Char.isAlphanum, h]

theorem not_isAlpha_of_isDigit (h : c.isDigit = true) : c.isAlpha = false := by
  have all : (ascii.all fun c => !c.isDigit || !c.isAlpha) = true := by decide
  have holds := of_ascii all (toNat_lt_of_isAlphanum (isAlphanum_of_isDigit h))
  simpa [h] using holds

/-- The Latin letters and the digits are letters and numerals, and the letters start names. -/
theorem alphanum_spec (h : c.isAlphanum = true) :
    isAlphanumeric c = true ∧ isAlphabetic c = c.isAlpha := by
  have all : (ascii.all fun c => !c.isAlphanum ||
    (isAlphanumeric c && (isAlphabetic c == c.isAlpha))) = true := by
    decide
  have holds := of_ascii all (toNat_lt_of_isAlphanum h)
  simpa [h] using holds

theorem isNameChar_of_isAlphanum (h : c.isAlphanum = true) : Token.isNameChar c = true := by
  simp [Token.isNameChar, (alphanum_spec h).1]

theorem isNameChar_of_isPlainChar (h : SheetName.isPlainChar c = true) :
    Token.isNameChar c = true := by
  simp only [SheetName.isPlainChar, Bool.or_eq_true, beq_iff_eq] at h
  rcases h with (h | rfl) | rfl
  · exact isNameChar_of_isAlphanum h
  · decide
  · decide

theorem startsName_of_isPlainStart (h : SheetName.isPlainStart c = true) :
    Token.startsName c = true := by
  simp only [SheetName.isPlainStart, Bool.or_eq_true, beq_iff_eq] at h
  rcases h with h | rfl
  · simp [Token.startsName, (alphanum_spec (isAlphanum_of_isAlpha h)).2, h]
  · decide

theorem startsCorner_of_isAlpha (h : c.isAlpha = true) : Token.startsCorner c = true := by
  simp [Token.startsCorner, (alphanum_spec (isAlphanum_of_isAlpha h)).2, h]

theorem startsName_of_startsCorner (h : Token.startsCorner c = true) :
    Token.startsName c = true := by
  simp only [Token.startsCorner, Bool.or_eq_true] at h
  rcases h with (h | h) | h <;> simp [Token.startsName, h]

theorem visible_of_isNameChar (h : Token.isNameChar c = true) : isBlank c = false := by
  refine Bool.eq_false_iff.2 fun blank => ?_
  rw [(blank_breaks blank).2.1] at h
  cases h

theorem visible_of_startsName (h : Token.startsName c = true) : isBlank c = false := by
  refine Bool.eq_false_iff.2 fun blank => ?_
  rw [(blank_breaks blank).2.2.1] at h
  cases h

end

end Spreadsheet.Text
