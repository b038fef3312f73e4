import Mathlib
import Spreadsheet.Value.NumericText

/-!
# `Proofs/Value/NumericText.lean` — texts that look like no number

Each step that reads a number off a text drops white space and certain signs and passes on the
rest, and in the end nothing may be left over. So a character that is none of these signs, no
digit and no letter is still there when the numeral is read, and no text that has one looks like a
number (`read?_of_foreign`).

So a text is known to be no number by one of its characters, without being read to the end. A
pattern with a tilde or a wildcard in it is such a text: it is never compared as the number that
it looks like.
-/

set_option autoImplicit false

namespace Spreadsheet

variable {c : Char} {s : List Char}

/-- The characters that occur in no number. -/
structure NumericText.Foreign (c : Char) : Prop where
  visible : Text.isBlank c = false
  noCurrency : NumericText.isCurrency c = false
  noDigit : c.isDigit = false
  noLetter : c.isAlpha = false
  noSign : c ∉ ['+', '-', '.', ',', '%']

/-! ## Numerals -/

namespace Decimal

theorem mem_afterDigits (noDigit : c.isDigit = false) (mem : c ∈ s) : c ∈ (spanDigits s).2 := by
  have split : (spanDigits s).1 ++ (spanDigits s).2 = s := by
    unfold spanDigits
    rw [List.span_eq_takeWhile_dropWhile]
    exact List.takeWhile_append_dropWhile
  have digits : ∀ d ∈ (spanDigits s).1, d.isDigit = true := by
    intro d hd
    unfold spanDigits at hd
    rw [List.span_eq_takeWhile_dropWhile] at hd
    exact List.mem_takeWhile_imp hd
  rw [← split, List.mem_append] at mem
  rcases mem with front | rest
  · rw [digits c front] at noDigit
    cases noDigit
  · exact rest

theorem exponent?_of_foreign (foreign : NumericText.Foreign c) (mem : c ∈ s) :
    exponent? s = none := by
  have all {digits : List Char} (mem : c ∈ digits) :
    ¬ (digits ≠ [] ∧ digits.all Char.isDigit = true) := by
    rintro ⟨-, all⟩
    have digit := List.all_eq_true.1 all c mem
    rw [foreign.noDigit] at digit
    cases digit
  -- The character is none of the signs, so taking a sign off leaves it there.
  have unsigned {sign : Char} {digits : List Char} (signs : sign = '-' ∨ sign = '+')
    (mem : c ∈ sign :: digits) :
      c ∈ digits := by
    rcases List.mem_cons.1 mem with rfl | mem
    · have noSign := foreign.noSign
      rcases signs with rfl | rfl <;> exact absurd noSign (by decide)
    · exact mem
  cases s with
  | nil => cases mem
  | cons e rest =>
    simp only [exponent?]
    split
    next letter =>
      have behind : c ∈ rest := by
        rcases List.mem_cons.1 mem with rfl | mem
        · have noLetter := foreign.noLetter
          rcases letter with rfl | rfl <;> exact absurd noLetter (by decide)
        · exact mem
      split
      next digits => exact if_neg (all (unsigned (.inl rfl) behind))
      next digits => exact if_neg (all (unsigned (.inr rfl) behind))
      next => exact if_neg (all behind)
    next => rfl

theorem numeral?_of_foreign (foreign : NumericText.Foreign c) (mem : c ∈ s) :
    numeral? s = none := by
  have after := mem_afterDigits foreign.noDigit mem
  -- Whatever the digits are, the character is left for the exponent, which it is no part of.
  have rest (e : List Char) (mem : c ∈ e) (fraction : List Char) (reading : Int → Scaled) :
      (if (spanDigits s).1 = [] ∧ fraction = [] then none else (exponent? e).map reading) =
      none := by
    rw [exponent?_of_foreign foreign mem]
    exact ite_self _
  unfold numeral?
  dsimp only
  split
  next digits eq =>
    rw [eq] at after
    refine rest _ ?_ _ _
    rcases List.mem_cons.1 after with rfl | mem
    · exact absurd foreign.noSign (by decide)
    · exact mem_afterDigits foreign.noDigit mem
  next => exact rest _ after _ _

theorem unsigned?_of_foreign (foreign : NumericText.Foreign c) (mem : c ∈ s) :
    unsigned? s = none := by
  have name {letters : List Char} (alpha : letters.all Char.isAlpha = true) :
    s.map Char.toLower ≠ letters := by
    rintro rfl
    have letter := List.all_eq_true.1 alpha _ (List.mem_map_of_mem mem)
    rw [Char.isAlpha_toLower_eq_isAlpha, foreign.noLetter] at letter
    cases letter
  unfold unsigned?
  rw [numeral?_of_foreign foreign mem]
  dsimp only
  rw [if_neg (not_or.2 ⟨name (by decide), name (by decide)⟩), if_neg (name (by decide))]

end Decimal

/-! ## Texts -/

namespace NumericText

theorem mem_dropWhile {p : Char → Bool} (kept : p c = false) (mem : c ∈ s) : c ∈ s.dropWhile p := by
  rw [← List.takeWhile_append_dropWhile (p := p) (l := s), List.mem_append] at mem
  rcases mem with front | rest
  · rw [List.mem_takeWhile_imp front] at kept
    cases kept
  · exact rest

theorem mem_trimEnd (visible : Text.isBlank c = false) (mem : c ∈ s) : c ∈ Text.trimEnd s :=
  List.mem_reverse.2 (mem_dropWhile visible (List.mem_reverse.2 mem))

theorem mem_trim (visible : Text.isBlank c = false) (mem : c ∈ s) : c ∈ Text.trim s :=
  mem_trimEnd visible (mem_dropWhile visible mem)

theorem Foreign.mem_splitSign (foreign : Foreign c) (mem : c ∈ s) : c ∈ (splitSign s).2 := by
  unfold splitSign
  split
  · rcases List.mem_cons.1 mem with rfl | mem
    · exact absurd foreign.noSign (by decide)
    · exact mem_dropWhile foreign.visible mem
  · rcases List.mem_cons.1 mem with rfl | mem
    · exact absurd foreign.noSign (by decide)
    · exact mem
  · exact mem

theorem Foreign.mem_dropCurrency (foreign : Foreign c) (mem : c ∈ s) : c ∈ dropCurrency s := by
  cases s with
  | nil => exact mem
  | cons d rest =>
    refine mem_dropWhile foreign.visible ?_
    split
    next currency =>
      rcases List.mem_cons.1 mem with rfl | mem
      · rw [foreign.noCurrency] at currency
        cases currency
      · exact mem
    next => exact mem

theorem Foreign.mem_splitPercent (foreign : Foreign c) (mem : c ∈ s) : c ∈ (splitPercent s).2 := by
  unfold splitPercent
  split
  next percent =>
    refine mem_trimEnd foreign.visible ?_
    obtain ⟨front, rfl⟩ := List.getLast?_eq_some_iff.1 percent
    rw [List.dropLast_concat]
    rcases List.mem_append.1 mem with mem | last
    · exact mem
    · obtain rfl := List.mem_singleton.1 last
      exact absurd foreign.noSign (by decide)
  next => exact mem

theorem magnitude?_of_foreign (foreign : Foreign c) (mem : c ∈ s) : magnitude? s = none := by
  have comma : (c != ',') = true := by
    rw [bne_iff_ne]
    rintro rfl
    exact absurd foreign.noSign (by decide)
  unfold magnitude?
  split
  · split
    · rw [Decimal.unsigned?_of_foreign foreign (List.mem_filter.2 ⟨mem, comma⟩)]
      rfl
    · rfl
  · rfl

/-- A text with a character that occurs in no number looks like none. -/
theorem read?_of_foreign (foreign : Foreign c) (mem : c ∈ s) : read? s = none := by
  unfold read?
  dsimp only
  rw [Option.map_eq_none_iff]
  apply magnitude?_of_foreign foreign
  apply foreign.mem_splitPercent
  apply foreign.mem_dropCurrency
  apply foreign.mem_splitSign
  exact mem_trim foreign.visible mem

end NumericText

end Spreadsheet
