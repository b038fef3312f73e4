/-!
# `Settings/Basic.lean` — what can be configured
-/

set_option autoImplicit false

namespace Spreadsheet

/-- The configuration of a workbook. -/
structure Settings where
  /-- The name of the sheet that a new workbook starts with. -/
  defaultSheet : String
  /-- Ranges of more cells than this are no valid references and are not watched. -/
  maxRangeCells : Nat
  /-- Sheet files of more bytes than this are refused. -/
  maxFileBytes : Nat
  deriving DecidableEq, Repr

/-- The configuration where nothing else is said. -/
def Settings.default : Settings where
  defaultSheet := "Sheet1"
  maxRangeCells := 1000000
  maxFileBytes := 16 * 1024 * 1024

end Spreadsheet
