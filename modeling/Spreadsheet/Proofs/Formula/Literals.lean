import Mathlib
import Spreadsheet.Proofs.Formula.RoundTrip
import Spreadsheet.Proofs.Number.Arithmetic
import Spreadsheet.Proofs.Number.Shortest

/-!
# `Proofs/Formula/Literals.lean` — every number of a formula is read back

A numeral in a formula has no sign, and the text of a number without one is digits with a point
that spell the number (`readsBack_of_unsigned`). So what is asked of the numbers where a formula
is printed holds of all that can be read, and printing a tree that was read is undone by reading
it, whatever numbers are in it (`parse_print_of_canonical`).

The assumption is not a law of rounding alone. The text of a number has to be one that the lexer
takes for a numeral as well, which the text of a negative number is not.
-/

set_option autoImplicit false

namespace Spreadsheet

open Binary64

/-- A number that is neither below zero nor the negative zero has no sign. -/
theorem Decimal.negative_of_ofFloat? {x : Float} {b : Decimal.Binary}
    (h : Decimal.Binary.ofFloat? x = some b) (nonneg : ¬ x < 0.0) (ne : x ≠ -0.0) :
    b.negative = false := by
  obtain ⟨-, -, unpacked⟩ := unpack_of_ofFloat? h
  cases sign : b.negative with
  | false => rfl
  | true =>
    rw [sign, magnitude] at unpacked
    split at unpacked
    next => exact absurd (lt_iff.2 (by rw [unpacked]; rfl)) nonneg
    next =>
      refine absurd ?_ ne
      rw [← ofModel_pack_unpack x, unpacked]
      rfl

/-- The numbers that numerals of formulas come to are read back. -/
theorem Decimal.readsBack_of_unsigned {x : Float} (finite : x.isFinite = true) (nonneg : ¬ x < 0.0)
    (ne : x ≠ -0.0) :
    Decimal.ReadsBack x := by
  obtain ⟨b, hb⟩ : ∃ b, Decimal.Binary.ofFloat? x = some b := ⟨_, if_pos finite⟩
  -- Not negative, so nothing is written in front of the digits.
  have positive := negative_of_ofFloat? hb nonneg ne
  have text : (text x).toList = b.shortest.positional := by
    unfold Decimal.text
    rw [hb]
    dsimp only
    rw [positive, String.toList_ofList]
    rfl
  obtain ⟨magnitude, read, value⟩ := numeral?_positional b.shortest
  have nearest := Scaled.signed_toFloat hb (value ▸ roundsTo_shortest b)
  rw [positive] at nearest
  constructor
  · rw [text]
    exact plain_positional _
  · rw [text, read]
    exact congrArg some nearest

namespace Formula

variable {e : Expr} {source : String}

theorem readsBack_of_canonical (canonical : e.Canonical) :
    ∀ x ∈ e.literals, Decimal.ReadsBack x := by
  intro x hx
  obtain ⟨finite, nonneg, ne⟩ := canonical _ (Expr.mem_literals.1 hx)
  exact Decimal.readsBack_of_unsigned finite nonneg ne

/-- What is printed of a tree that could have been read is read back as that tree. -/
theorem parse_print_of_canonical (canonical : e.Canonical) : parse e.print = .ok e :=
  parse_print canonical (readsBack_of_canonical canonical)

/-- The normal form of a formula is the same formula, and its own normal form. -/
theorem normalize_normalize (parsed : parse source = .ok e) :
    ∃ text, normalize source = .ok text ∧ parse text = .ok e ∧ normalize text = .ok text := by
  have again := parse_print_of_canonical (canonical_of_parse parsed)
  refine ⟨e.print, ?_, again, ?_⟩
  · rw [normalize, parsed]
    rfl
  · rw [normalize, again]
    rfl

end Formula

end Spreadsheet
