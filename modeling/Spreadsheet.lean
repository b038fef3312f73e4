import Spreadsheet.Address.Basic
import Spreadsheet.Address.Column
import Spreadsheet.Address.Position
import Spreadsheet.Address.Range
import Spreadsheet.Address.Reader
import Spreadsheet.Calendar
import Spreadsheet.CommandLine
import Spreadsheet.Decimal.Binary
import Spreadsheet.Decimal.Numeral
import Spreadsheet.Decimal.Shortest
import Spreadsheet.Decimal.Significant
import Spreadsheet.Evaluation
import Spreadsheet.Failure
import Spreadsheet.Formula.Expr
import Spreadsheet.Formula.Lexer
import Spreadsheet.Formula.Operator
import Spreadsheet.Formula.Parser
import Spreadsheet.Formula.Printer
import Spreadsheet.Formula.Reference
import Spreadsheet.Formula.SyntaxError
import Spreadsheet.Formula.Token
import Spreadsheet.Function.Aggregate
import Spreadsheet.Function.Argument
import Spreadsheet.Function.Arithmetic
import Spreadsheet.Function.Basic
import Spreadsheet.Function.Criterion
import Spreadsheet.Function.Date
import Spreadsheet.Function.Library
import Spreadsheet.Function.Logical
import Spreadsheet.Function.Lookup
import Spreadsheet.Function.Text
import Spreadsheet.Graph.Cycle
import Spreadsheet.Grid
import Spreadsheet.Input
import Spreadsheet.Main
import Spreadsheet.Settings.Basic
import Spreadsheet.Settings.Document
import Spreadsheet.Settings.Literal
import Spreadsheet.SheetFile
import Spreadsheet.Text.Alphabetic
import Spreadsheet.Text.Blank
import Spreadsheet.Text.Case
import Spreadsheet.Text.CaseContext
import Spreadsheet.Text.CaseTable
import Spreadsheet.Text.CharSet
import Spreadsheet.Text.Glob
import Spreadsheet.Text.Occurrence
import Spreadsheet.Text.Quoted
import Spreadsheet.Text.Regex
import Spreadsheet.Text.Split
import Spreadsheet.Text.Visible
import Spreadsheet.TextFile
import Spreadsheet.Value.Basic
import Spreadsheet.Value.Block
import Spreadsheet.Value.Coercion
import Spreadsheet.Value.Display
import Spreadsheet.Value.NumericText
import Spreadsheet.Value.Order
import Spreadsheet.Workbook.Basic
import Spreadsheet.Workbook.Compile
import Spreadsheet.Workbook.Edit
import Spreadsheet.Workbook.Load
import Spreadsheet.Workbook.Loop
import Spreadsheet.Workbook.Query
import Spreadsheet.Workbook.Recalculation
import Spreadsheet.Workbook.View
import Spreadsheet.Proofs.Address.Column
import Spreadsheet.Proofs.Address.ReadBack
import Spreadsheet.Proofs.Address.Rectangle
import Spreadsheet.Proofs.Address.Spelling
import Spreadsheet.Proofs.Calendar
import Spreadsheet.Proofs.Evaluation.Finite
import Spreadsheet.Proofs.Evaluation.Lawful
import Spreadsheet.Proofs.Evaluation.Provenance
import Spreadsheet.Proofs.Evaluation.Related
import Spreadsheet.Proofs.Formula.Acceptance
import Spreadsheet.Proofs.Formula.Canonical
import Spreadsheet.Proofs.Formula.Derivation
import Spreadsheet.Proofs.Formula.Fault
import Spreadsheet.Proofs.Formula.Grammar
import Spreadsheet.Proofs.Formula.Layout
import Spreadsheet.Proofs.Formula.LexicalFault
import Spreadsheet.Proofs.Formula.Literals
import Spreadsheet.Proofs.Formula.Names
import Spreadsheet.Proofs.Formula.Pieces
import Spreadsheet.Proofs.Formula.RoundTrip
import Spreadsheet.Proofs.Formula.Scanning
import Spreadsheet.Proofs.Formula.Spacing
import Spreadsheet.Proofs.Formula.Unresolved
import Spreadsheet.Proofs.Function.Aggregate
import Spreadsheet.Proofs.Function.Answer
import Spreadsheet.Proofs.Function.Criterion
import Spreadsheet.Proofs.Function.Date
import Spreadsheet.Proofs.Function.Elapsed
import Spreadsheet.Proofs.Function.Finite
import Spreadsheet.Proofs.Function.Guarded
import Spreadsheet.Proofs.Function.Logical
import Spreadsheet.Proofs.Function.Lookup
import Spreadsheet.Proofs.Function.Positions
import Spreadsheet.Proofs.Function.Registry
import Spreadsheet.Proofs.Function.Respects.Basic
import Spreadsheet.Proofs.Function.Respects.Library
import Spreadsheet.Proofs.Function.Respects.Scalars
import Spreadsheet.Proofs.Function.Respects.Tables
import Spreadsheet.Proofs.Function.Serial
import Spreadsheet.Proofs.Function.Substitute
import Spreadsheet.Proofs.Function.Tables
import Spreadsheet.Proofs.Function.Wildcards
import Spreadsheet.Proofs.Graph.Alone
import Spreadsheet.Proofs.Graph.Marking
import Spreadsheet.Proofs.Graph.Search
import Spreadsheet.Proofs.Number.Arithmetic
import Spreadsheet.Proofs.Number.Finite
import Spreadsheet.Proofs.Number.Nearest
import Spreadsheet.Proofs.Number.Numeral
import Spreadsheet.Proofs.Number.Order
import Spreadsheet.Proofs.Number.Position
import Spreadsheet.Proofs.Number.Rank
import Spreadsheet.Proofs.Number.Rounding
import Spreadsheet.Proofs.Number.Shortest
import Spreadsheet.Proofs.Number.Significant
import Spreadsheet.Proofs.Number.Stored
import Spreadsheet.Proofs.Number.Unsigned
import Spreadsheet.Proofs.Number.Whole
import Spreadsheet.Proofs.Number.Zeros
import Spreadsheet.Proofs.Recalculation.Clock
import Spreadsheet.Proofs.Recalculation.Finite
import Spreadsheet.Proofs.Recalculation.Invariant
import Spreadsheet.Proofs.Recalculation.Library
import Spreadsheet.Proofs.Recalculation.Locality
import Spreadsheet.Proofs.Recalculation.Meaning
import Spreadsheet.Proofs.Recalculation.Order
import Spreadsheet.Proofs.Recalculation.Preview
import Spreadsheet.Proofs.Recalculation.Published
import Spreadsheet.Proofs.Recalculation.Reports
import Spreadsheet.Proofs.Recalculation.Rewriting
import Spreadsheet.Proofs.Recalculation.Settling
import Spreadsheet.Proofs.Recalculation.Soundness
import Spreadsheet.Proofs.Recalculation.Stale
import Spreadsheet.Proofs.Recalculation.Step
import Spreadsheet.Proofs.Recalculation.Stored
import Spreadsheet.Proofs.Recalculation.Surfacing
import Spreadsheet.Proofs.Recalculation.Termination
import Spreadsheet.Proofs.SheetFile.Quoting
import Spreadsheet.Proofs.SheetFile.Reading
import Spreadsheet.Proofs.Text.Bytes
import Spreadsheet.Proofs.Text.Characters
import Spreadsheet.Proofs.Text.Glob
import Spreadsheet.Proofs.Text.Input
import Spreadsheet.Proofs.Text.Lines
import Spreadsheet.Proofs.Text.Occurrence
import Spreadsheet.Proofs.Text.Run
import Spreadsheet.Proofs.Value.Alike
import Spreadsheet.Proofs.Value.Editing
import Spreadsheet.Proofs.Value.Finite
import Spreadsheet.Proofs.Value.Numeral
import Spreadsheet.Proofs.Value.NumericText
import Spreadsheet.Proofs.Value.Order
import Spreadsheet.Proofs.Value.Outcome
import Spreadsheet.Proofs.Value.Same
import Spreadsheet.Proofs.Value.Spelling
import Spreadsheet.Proofs.Workbook.Cells
import Spreadsheet.Proofs.Workbook.Coherent
import Spreadsheet.Proofs.Workbook.Edit
import Spreadsheet.Proofs.Workbook.FailedLoad
import Spreadsheet.Proofs.Workbook.Footprint
import Spreadsheet.Proofs.Workbook.Loop
import Spreadsheet.Proofs.Workbook.LoopSearch
import Spreadsheet.Proofs.Workbook.Reachable
import Spreadsheet.Proofs.Workbook.Recompiled
import Spreadsheet.Proofs.Workbook.Session
import Spreadsheet.Proofs.Workbook.Sheets
import Spreadsheet.Proofs.Workbook.Sound
import Spreadsheet.Proofs.Workbook.Surfaced
import Spreadsheet.Proofs.Workbook.View
import Spreadsheet.Proofs.Workbook.Wiring
