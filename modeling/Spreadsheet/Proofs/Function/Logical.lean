import Spreadsheet.Proofs.Function.Respects.Scalars

/-!
# `Proofs/Function/Logical.lean` — what is true of functions that catch errors

`IFERROR` and `IFNA` are determined by their arguments like any other function, and so lawful, and
make up no error of a loop. They are what makes that error more than something that is passed on:
a formula can turn it into an ordinary value.

They are singled out here because formulas in which a loop goes unnoticed are written with them;
the theorems about all built-in functions cover the two like the rest.
-/

set_option autoImplicit false

namespace Spreadsheet.Logical

variable (name : String) (arity : Arity) (policy : ArgumentPolicy) (caught : ErrorCode → Bool)

/-- Functions that catch errors are lawful, whichever they catch. -/
theorem catching_lawful : (Function.ofArguments name arity policy (catching caught)).Lawful :=
  Function.Respects.lawful (respects_of_arguments catching_alike) fun _ _ _ => rfl

/-- What the library has under the name. -/
theorem find?_library_ifError {engine : Regex.Engine} : (Registry.library engine).find? "IFERROR" =
    some (.ofArguments "IFERROR" (.exactly 2) .raw (catching fun _ => true)) :=
  find?_library (by simp [Function.library, functions]) rfl

end Spreadsheet.Logical
