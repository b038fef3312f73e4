import Spreadsheet.Function.Aggregate
import Spreadsheet.Function.Arithmetic
import Spreadsheet.Function.Criterion
import Spreadsheet.Function.Date
import Spreadsheet.Function.Logical
import Spreadsheet.Function.Lookup
import Spreadsheet.Function.Text

/-!
# `Function/Library.lean` — the functions that every workbook starts with

Each family lists its own functions; the library is all of them together. The functions that match
texts with wildcards do so with an engine for regular expressions, so there is a library for each.
-/

set_option autoImplicit false

namespace Spreadsheet

/-- The built-in functions. -/
def Function.library (engine : Regex.Engine) : List Function :=
  Aggregate.functions ++ Arithmetic.functions ++ Logical.functions ++ Lookup.functions engine ++
    TextFunction.functions ++ DateFunction.functions ++ Criterion.functions engine

/-- The registry of the built-in functions. -/
def Registry.library (engine : Regex.Engine := .standard) : Registry :=
  (Function.library engine).foldl Registry.insert Registry.empty

end Spreadsheet
