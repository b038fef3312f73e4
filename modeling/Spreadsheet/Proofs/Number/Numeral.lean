import Spreadsheet.Decimal.Numeral
import Spreadsheet.Proofs.Text.Run

/-!
# `Proofs/Number/Numeral.lean` — what numerals spell

A numeral is digits, with a point among them or at either end, and an exponent behind. What it
spells is found from these pieces: the digits say a number, and the point and the exponent where
its last digit stands.

The four lemmas are what a reader and a writer of numbers share: the first two say when a text of
a certain shape is a numeral at all, with an exponent or without, and the others are their cases
without one.
-/

set_option autoImplicit false

namespace Spreadsheet.Decimal

variable {whole fraction z : List Char}

theorem numeral?_of_digits (digits : ∀ c ∈ whole, c.isDigit = true) (nonempty : whole ≠ [])
    (stops : Text.StopsAt Char.isDigit z) (point : z.head? ≠ some '.') :
    numeral? (whole ++ z) = (exponent? z).map fun e => ⟨ofDigits whole, e⟩ := by
  unfold numeral? spanDigits
  rw [Text.span_append digits stops]
  dsimp only
  split
  next => exact absurd rfl point
  next => simp [nonempty]

theorem numeral?_of_point (digits : ∀ c ∈ whole, c.isDigit = true)
    (digits' : ∀ c ∈ fraction, c.isDigit = true) (nonempty : whole ≠ [] ∨ fraction ≠ [])
    (stops : Text.StopsAt Char.isDigit z) :
    numeral? (whole ++ '.' :: fraction ++ z) =
      (exponent? z).map fun e => ⟨ofDigits (whole ++ fraction), e - fraction.length⟩ := by
  have cut := Text.span_append digits' stops
  -- The point ends the digits before it, being no digit.
  have point : Text.StopsAt Char.isDigit ('.' :: (fraction ++ z)) := Text.stopsAt_cons.2 (by decide)
  unfold numeral? spanDigits
  rw [List.append_assoc, List.cons_append, Text.span_append digits point]
  simp only [cut, not_and_or.2 nonempty, if_false]

theorem numeral?_digits (digits : ∀ c ∈ whole, c.isDigit = true) (nonempty : whole ≠ []) :
    numeral? whole = some ⟨ofDigits whole, 0⟩ := by
  have read := numeral?_of_digits digits nonempty Text.stopsAt_nil (by simp)
  rwa [List.append_nil] at read

theorem numeral?_point (digits : ∀ c ∈ whole, c.isDigit = true)
    (digits' : ∀ c ∈ fraction, c.isDigit = true) (nonempty : whole ≠ []) :
    numeral? (whole ++ '.' :: fraction) =
      some ⟨ofDigits (whole ++ fraction), -fraction.length⟩ := by
  have read := numeral?_of_point digits digits' (.inl nonempty) Text.stopsAt_nil
  rw [List.append_nil] at read
  rw [read, ← Int.zero_sub]
  rfl

end Spreadsheet.Decimal
