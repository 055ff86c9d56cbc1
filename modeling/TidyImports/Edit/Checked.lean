import TidyImports.Edit.Basic
import TidyImports.Number.Read

/-!
# Positions and ranges from outside

Coordinates in a report are integers of any sign, and a range may be given backwards.
`Position.ofInts` and `Range.ofPositions` accept what makes sense and name the fault otherwise.
-/

namespace TidyImports

inductive SpanFault where
  | negative (line column : Int)
  | reversed (start stop : Position)
  deriving DecidableEq, Repr

def Position.display (p : Position) : String := s!"Position(line={p.line}, column={p.column})"

/-- Coordinates with too many digits to be written take the place of what would be said of them. -/
def SpanFault.message : SpanFault → String
  | .negative line column =>
    if Numeral.tooManyDigits line || Numeral.tooManyDigits column then Numeral.tooLongMessage ""
    else s!"Position must be non-negative: ({line}, {column})"
  | .reversed start stop => s!"Range end {stop.display} precedes start {start.display}"

def Position.ofInts (line column : Int) : Except SpanFault Position :=
  if line < 0 ∨ column < 0 then .error (.negative line column)
  else .ok ⟨line.toNat, column.toNat⟩

/-- A position from coordinates that count from one. -/
def Position.ofOneBased (row column : Int) : Except SpanFault Position :=
  Position.ofInts (row - 1) (column - 1)

def Range.ofPositions (start stop : Position) : Except SpanFault Range :=
  if h : start ≤ stop then .ok ⟨start, stop, h⟩ else .error (.reversed start stop)

/-- A range from four coordinates; its start is checked first, then its end, then their order. -/
def Range.ofInts (startLine startColumn stopLine stopColumn : Int) : Except SpanFault Range := do
  let start ← Position.ofInts startLine startColumn
  let stop ← Position.ofInts stopLine stopColumn
  Range.ofPositions start stop

end TidyImports
