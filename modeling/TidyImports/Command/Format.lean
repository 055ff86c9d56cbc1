import TidyImports.Command.World
import TidyImports.Diff.Unified
import TidyImports.Format

/-!
# The command `format`

Formats files and notebooks one after the other. An input that cannot be one ends the command before
any file is touched; after that a failure concerns its own file only. With `--check` or `--diff`
nothing is written.
-/

namespace TidyImports

/-- The argument that stands for standard input. -/
def stdinPath : String := "-"

/-- The file name assumed for standard input. -/
def assumedName : String := "stdin.py"

/-- The file name assumed for the cells of a notebook. -/
def cellName : String := "cell.py"

def linterProgram : List String := ["ruff"]

/-- What became of one input. -/
structure FileReport where
  path : String
  before : Text := []
  after : Text := []
  results : List FormatResult := []
  ending : Text.Ending := .lf
  failure : Option String := none
  status : Nat := 0

namespace FileReport

def changed (r : FileReport) : Bool := r.before != r.after

def failed (r : FileReport) : Bool := r.failure.isSome

def toValue (r : FileReport) : Value :=
  let imports := sortNames ((r.results.flatMap (·.imports)).map Value.display)
  .table ([("path", .text r.path), ("changed", .bool r.changed),
    ("imports", .list (imports.map .text)),
    ("batches", .int (r.results.foldl (fun n x => n + x.batches.length) 0 : Nat)),
    ("iterations", .int (r.results.foldl (fun n x => n + x.rounds) 0 : Nat))] ++
    (r.failure.map fun message => ("error", Value.text message)).toList)

/-- The report of a failure; a text that was read counts as unchanged. -/
def fail (r : FileReport) (f : Failure) : FileReport :=
  { r with after := r.before, failure := some f.describe, status := f.exitCode }

end FileReport

namespace FormatOptions

def writes (o : FormatOptions) : Bool := !(o.check || o.diff)

/-- The name of an input: for standard input the one that is assumed for it. -/
def inputName (o : FormatOptions) (disk : Disk) (path : String) : Except Failure PathName :=
  if path = stdinPath then
    .ok (.ofString (Config.orElse (o.stdinName.getD "") assumedName))
  else disk.resolve (.ofString path)

end FormatOptions

/-- The exit status: the greatest of the failures, or one where `--check` found changes. -/
def exitStatus (check : Bool) (reports : List FileReport) : Nat :=
  let failures := reports.filter (·.failed)
  if !failures.isEmpty then (failures.map (·.status)).foldl max 0
  else if check && reports.any (·.changed) then 1
  else 0

/-- The report of all inputs. -/
def summary (check : Bool) (reports : List FileReport) : Value :=
  let changed := reports.filter (·.changed)
  let failed := reports.filter (·.failed)
  .table [("success", .bool (failed.isEmpty && !(check && !changed.isEmpty))),
    ("changed", .int changed.length), ("failed", .int failed.length),
    ("files", .list (reports.map FileReport.toValue))]

namespace Command

variable {ρ : Type} (launch : Launcher (World ρ))

def linterFor (settings : Settings) (filename : String) : Linter (World ρ) :=
  .ofLauncher ⟨linterProgram, filename, settings.timeout⟩ launch

/-! ## One input -/

/-- Formats the text of a notebook; if no cell changes, neither does the text. -/
def formatCells (settings : Settings) (o : FormatOptions) (text : Text) (name : PathName) :
    Run (World ρ) (Text × List FormatResult) := do
  let notebook ← Run.ofExcept (Notebook.ofText text (some name.toString))
  let linter := linterFor launch settings cellName
  let snapshot ← Run.ofExcept (Snapshot.of settings)
  let (notebook, results) ← match o.cell with
    | some i => do
      let (notebook, result) ← formatCell linter snapshot notebook i (!o.narrow)
      pure (notebook, [result])
    | none => do
      let run ← ExceptT.lift (formatNotebook linter snapshot (!o.narrow) notebook)
      match run.failure with
      | some failure => Run.fail failure
      | none => pure (run.notebook, run.results)
  pure (if results.any (·.changed) then notebook.toText else text, results)

def formatText (settings : Settings) (o : FormatOptions) (text : Text) (name : PathName) :
    Run (World ρ) (Text × List FormatResult) :=
  if isNotebook name then formatCells launch settings o text name
  else do
    let snapshot ← Run.ofExcept (Snapshot.of settings)
    let result ← formatDocument (linterFor launch settings name.name) snapshot text
      ⟨!o.narrow, some name.name, .standalone⟩
    pure (result.text, [result])

/-- The text of an input and the ending to restore; standard input can be read once. -/
def readInput (path : String) (name : PathName) :
    Command ρ (Except Failure (Text × Text.Ending)) := do
  if path = stdinPath then
    let w ← world
    changeWorld fun w => { w with input := [] }
    pure (.ok (Text.unifyBreaks w.input, .lf))
  else
    let w ← world
    pure (readSource w.disk name w.guard)

/-- Formats one input; a failure that is not reported beside a file ends the command. -/
def formatInput (settings : Settings) (o : FormatOptions) (path : String) :
    Command ρ FileReport := do
  let name ← ofExcept (o.inputName (← world).disk path)
  match ← readInput path name with
  | .error failure => pure (FileReport.fail { path := path } failure)
  | .ok (text, ending) =>
    let report : FileReport := { path := path, before := text, after := text, ending := ending }
    match ← attempt (formatText launch settings o text name) with
    | .ok (after, results) => pure { report with after := after, results := results }
    | .error failure =>
      if failure.reportable then pure (report.fail failure) else throw (.crash failure)

/-! ## Writing back -/

/-- Writes the file of a report, and says so. -/
def writeBack (o : FormatOptions) (report : FileReport) : Command ρ FileReport := do
  let name ← resolve report.path
  let w ← world
  match writeSource w.disk name report.after report.ending w.guard with
  | .ok disk =>
    changeWorld fun w => { w with disk := disk }
    if !o.json && !o.quiet then say ("Fixed imports in " ++ report.path)
    pure report
  | .error failure =>
    if !o.json then complain o.verbose s!"{report.path}: {failure.message}"
    pure { report with after := report.before, failure := some failure.message, status := 1 }

/-- Shows or writes what became of one input. -/
def deliver (o : FormatOptions) (report : FileReport) : Command ρ FileReport := do
  match report.failure with
  | some message => do
    if !o.json then complain o.verbose s!"{report.path}: {message}"
    pure report
  | none =>
    if report.path = stdinPath && o.writes then do
      write report.after
      pure report
    else do
      if o.diff && report.changed && !o.json then
        writePlain (unifiedDiff report.before report.after report.path)
      if o.writes && report.changed then writeBack o report else pure report

def formatAll (settings : Settings) (o : FormatOptions) : List String → Command ρ (List FileReport)
  | [] => pure []
  | path :: rest => do
    let report ← deliver o (← formatInput launch settings o path)
    let reports ← formatAll settings o rest
    pure (report :: reports)

/-! ## The command -/

/-- Refuses inputs that cannot be formatted. -/
def checkInputs (o : FormatOptions) : List String → Command ρ Unit
  | [] => pure ()
  | path :: rest => do
    let name ← ofExcept (o.inputName (← world).disk path)
    if path != stdinPath then requireInput "File" name
    if o.cell.isSome && !isNotebook name then
      complain o.verbose ("--cell can only be used with notebooks: " ++ path)
      stop 1
    checkInputs o rest

/-- Whether standard output holds nothing but the text of standard input. -/
def onlyStdin (o : FormatOptions) (reports : List FileReport) : Bool :=
  match reports with
  | [r] => r.path == stdinPath && o.writes
  | _ => false

def sayWouldFix : List FileReport → Command ρ Unit
  | [] => pure ()
  | r :: rest => do
    say ("Would fix imports in " ++ r.path)
    sayWouldFix rest

def conclude (o : FormatOptions) (reports : List FileReport) : Command ρ Unit := do
  let changed := reports.filter (·.changed)
  if o.json then writeJson (summary o.check reports)
  else if !onlyStdin o reports then
    if o.check && !changed.isEmpty then
      if !o.quiet then sayWouldFix changed
    else if !(reports.any (·.failed)) && !o.quiet then
      let verb := if o.writes then "changed" else "would change"
      succeed s!"{changed.length} of {reports.length} file(s) {verb}"

def format (o : FormatOptions) : Command ρ Unit := do
  let start := (← world).disk.currentName
  let settings ← settings (overrides o.depthLimit o.lineLength o.removeUnused o.organize) start
  if !settings.enabled.truthy then
    complain o.verbose Failure.disabled.message
    stop 1
  checkInputs o o.paths
  let reports ← formatAll launch settings o o.paths
  conclude o reports
  stop (exitStatus o.check reports)

end Command
end TidyImports
