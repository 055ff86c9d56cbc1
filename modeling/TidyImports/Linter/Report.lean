import TidyImports.Data.Json.Writer
import TidyImports.Linter.Diagnostic

/-!
# Linter reports

A report is a JSON list of records. `Report.parse` reads it into diagnostics, and a record of the
wrong shape fails in the way of its first fault; `Report.write` writes diagnostics as a report, with
rows and columns that count from one.
-/

namespace TidyImports.Report

/-! ## Reading -/

/-- A field of a table; a missing one is `null`. -/
def field (v : Value) (key : String) : Except Failure Value :=
  match v with
  | .table t => .ok ((Table.get? t key).getD .null)
  | _ => .error (.misuse .notTable)

/-- A field that must be there. -/
def member (v : Value) (key : String) : Except Failure Value :=
  match v with
  | .table t =>
    match Table.get? t key with
    | some w => .ok w
    | none => .error (.misuse .missingKey)
  | _ => .error (.misuse .wrongKind)

/-- The integer of a number, a truth value or a numeral. -/
def toInt : Value → Except Failure Int
  | .int n => .ok n
  | .bool b => .ok (if b then 1 else 0)
  | .float .nan => .error (.invalid .notANumber)
  | .float x =>
    match x.truncate? with
    | some n => .ok n
    | none => .error (.misuse .infinite)
  | .text s => (Numeral.readInt s.toList).mapError fun f => .invalid (.numeral f)
  | _ => .error (.misuse .wrongKind)

def ofSpan {α : Type} (r : Except SpanFault α) : Except Failure α :=
  r.mapError fun f => .invalid (.span f)

def readPosition (v : Value) : Except Failure Position := do
  let row ← toInt (← member v "row")
  let column ← toInt (← member v "column")
  ofSpan (Position.ofOneBased row column)

/-- A replacement that counts as unset is the empty text. -/
def readProposal (v : Value) : Except Failure Proposal := do
  let start ← readPosition (← member v "location")
  let stop ← readPosition (← member v "end_location")
  let range ← ofSpan (Range.ofPositions start stop)
  let content ← field v "content"
  pure ⟨range, if content.truthy then content else .text ""⟩

def readProposals : List Value → Except Failure (List Proposal)
  | [] => .ok []
  | v :: rest => do
    let p ← readProposal v
    let ps ← readProposals rest
    pure (p :: ps)

/-- The proposals of a fix; without edits there is no fix. -/
def readFix (fix : Value) : Except Failure (Option (List Proposal)) :=
  if !fix.truthy then .ok none
  else do
    let edits ← field fix "edits"
    if !edits.truthy then pure none
    else
      match edits.items? with
      | some items => do pure (some (← readProposals items))
      | none => .error (.misuse .wrongKind)

def readLocation (location : Value) : Except Failure (Option Position) :=
  if location.truthy then do pure (some (← readPosition location)) else .ok none

def readRecord (v : Value) : Except Failure Diagnostic := do
  let fix ← readFix (← field v "fix")
  let location ← field v "location"
  let code ← field v "code"
  let message :=
    match v with
    | .table t => (Table.get? t "message").getD (.text "")
    | _ => .text ""
  pure ⟨code, message, fix, ← readLocation location⟩

def readRecords : List Value → Except Failure (List Diagnostic)
  | [] => .ok []
  | v :: rest => do
    let d ← readRecord v
    let ds ← readRecords rest
    pure (d :: ds)

/-- A blank report is empty; a text that is no JSON list is the linter's failure. -/
def parse (output : Text) : Except Failure (List Diagnostic) :=
  if Text.allBlank output then .ok []
  else
    match Json.parse output with
    | .error (.tooLong n) => .error (.invalid (.numeral (.tooLong n)))
    | .error fault => .error (.linter (.unreadable fault) [] [])
    | .ok (.list records) => readRecords records
    | .ok _ => .error (.linter .notList [] [])

/-! ## Writing -/

def positionValue (p : Position) : Value :=
  .table [("row", .int (p.line + 1)), ("column", .int (p.column + 1))]

def proposalValue (p : Proposal) : Value :=
  .table [("content", p.content), ("location", positionValue p.range.start),
    ("end_location", positionValue p.range.stop)]

def recordValue (d : Diagnostic) : Value :=
  .table [("code", d.code), ("message", d.message),
    ("fix", match d.fix with
      | none => .null
      | some ps => .table [("edits", .list (ps.map proposalValue))]),
    ("location", match d.location with
      | none => .null
      | some p => positionValue p)]

def write (ds : List Diagnostic) : Text := Json.write .inline 0 (.list (ds.map recordValue))

end TidyImports.Report
