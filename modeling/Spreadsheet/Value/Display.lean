import Spreadsheet.Value.Coercion

/-!
# `Value/Display.lean` — how values are shown

A block is shown in braces, its rows separated by semicolons and the entries of a row by commas.
A number that is not finite is shown as the error that it would have been as a result.
-/

set_option autoImplicit false

namespace Spreadsheet

/-- How a number is shown. -/
def showNumber (x : Float) : String :=
  if x.isFinite then numberText x else ErrorCode.typeMismatch.code

/-- How a value is shown. -/
def Value.display : Value → String
  | .scalar (.number x) => showNumber x
  | .scalar s => s.toText
  | .error e => e.code
  | .block ⟨rows, columns, entry⟩ =>
    let row (i : Fin rows) : String :=
      ", ".intercalate (List.ofFn fun j : Fin columns => (entry i j).display)
    "\x7b" ++ "; ".intercalate (List.ofFn row) ++ "\x7d"
termination_by structural v => v

end Spreadsheet
