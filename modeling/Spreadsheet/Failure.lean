import Spreadsheet.Formula.SyntaxError
import Spreadsheet.SheetFile
import Spreadsheet.Text.Quoted

/-!
# `Failure.lean` — why an operation on a workbook failed

Errors inside formulas are values and stop nothing; a failure stops the operation that was asked
for. Each has a message, and one that passes on a fault from elsewhere says that fault's own
message again when the whole chain of causes is shown.
-/

set_option autoImplicit false

namespace Spreadsheet

/-- Why an operation failed. -/
inductive Failure where
  /-- A file could not be read. -/
  | unreadable (reason : String)
  /-- A line of a sheet file is faulty. -/
  | malformedLine (number : Nat) (fault : SheetFile.Fault)
  /-- A text is no address. -/
  | invalidAddress (text : String)
  /-- There is no sheet of this name. -/
  | unknownSheet (name : String)
  /-- A sheet cannot have this name. -/
  | invalidSheetName (name : String)
  /-- A text is no formula. -/
  | formula (e : SyntaxError)
  /-- A text is no configuration. -/
  | settings (reason : String)
  /-- Recalculation took more steps than it was given. -/
  | unsettled
  deriving DecidableEq, Repr

namespace Failure

/-- The message for a failure. -/
def message : Failure → String
  | .unreadable reason => s!"IO error: {reason}"
  | .malformedLine number fault => s!"Parse error at line {number}: {fault.message}"
  | .invalidAddress text => s!"Invalid cell address: {text}"
  | .unknownSheet name => s!"Unknown sheet: {name}"
  | .invalidSheetName name => s!"Invalid sheet name: {Text.quoted name}"
  | .formula e => s!"Formula error: {e.message}"
  | .settings reason => s!"Config error: {reason}"
  | .unsettled => "Recalculation did not settle"

/-- The message of the fault that a failure passes on. -/
def cause? : Failure → Option String
  | .unreadable reason => some reason
  | .formula e => some e.message
  | .settings reason => some reason
  | _ => none

/-- The messages of a failure and its cause, outermost first. -/
def chain (f : Failure) : List String := f.message :: f.cause?.toList

end Failure

end Spreadsheet
