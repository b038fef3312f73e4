import Spreadsheet.Proofs.Function.Registry
import Spreadsheet.Proofs.Evaluation.Provenance

/-!
# `Proofs/Function/Date.lean` — what is true of functions that look at the clock

`TODAY` is marked volatile, and the date is all it looks at: over one pass it is determined, like a
function of its arguments.

That the clock stands still during a pass is shown where passes are considered. Other functions of
dates look at their arguments alone and are treated with the functions that respect them.
-/

set_option autoImplicit false

namespace Spreadsheet.DateFunction

end Spreadsheet.DateFunction
