import TidyImports.Linter.Config
import TidyImports.Linter.Report

/-!
# The linter as a process

A linter is asked about a text under a configuration and answers with diagnostics, or fails. The
linter that is a process gets the text on its standard input and the configuration on its command
line; `Launcher` is what runs it, and `Linter.ofLauncher` makes a linter of it.
-/

namespace TidyImports

/-- A linter with a state of its own. -/
abbrev Linter (σ : Type) := Text → Config → Run σ (List Diagnostic)

/-- What became of a process. Not represented are output that is no UTF-8, since what a process
prints is a text here, and programs that are not started for want of a permission or because the
command line is too long. -/
inductive Outcome where
  | missing
  /-- The system refuses to start the program because of what its path leads to. -/
  | refused (cause : FileCause) (path : String)
  | timedOut
  | finished (status : Int) (stdout stderr : Text)

/-- Runs a command line on a standard input. -/
abbrev Launcher (σ : Type) := List String → Text → σ → Outcome × σ

/-- How a linter process is called. -/
structure Call where
  command : List String
  filename : String
  /-- Seconds allowed for one run. -/
  timeout : Value

namespace Call

/-- The command line for a configuration. -/
def arguments (call : Call) (config : Config) : Except Failure (List String) := do
  let overrides ← config.overrides
  pure (call.command ++
    ["check", "--isolated", "--no-cache", "--exit-zero", "--output-format", "json",
      "--stdin-filename", call.filename] ++
    overrides.flatMap (fun o => ["--config", o]) ++ ["-"])

/-- A timeout as it stands in a message: six digits. -/
def seconds (timeout : Value) : Except Failure String :=
  match timeout with
  | .float x => .ok x.brief
  | v =>
    match v.amount? with
    | some n =>
      match Binary64.ofInt n with
      | .finite negative m e => .ok (Binary64.brief (.finite negative m e))
      | _ => .error (.misuse .infinite)
    | none => .error (.misuse .wrongKind)

/-- What an outcome means: the diagnostics of a report, or a failure of the linter. -/
def interpret (config : Config) (timeout : Value) (program : String) :
    Outcome → Except Failure (List Diagnostic)
  | .missing => .error (.linter (.missing program) [] [])
  | .refused cause path => .error (.lookup cause path)
  | .timedOut => do
    let seconds ← seconds timeout
    let label ← config.label
    .error (.linter (.timedOut seconds label) [] [])
  | .finished status stdout stderr =>
    if status = 0 then Report.parse stdout
    else do
      let detail := Config.orElse (String.ofList (Text.strip stderr)) s!"exit code {status}"
      let label ← config.label
      .error (.linter (.failed label detail) [] [])

/-- Code and message of a diagnostic, for the log. -/
def finding (d : Diagnostic) : String := d.code.display ++ ": " ++ d.message.display

end Call

def Linter.ofLauncher {σ : Type} (call : Call) (launch : Launcher σ) : Linter σ :=
  fun text config => do
    let arguments ← Run.ofExcept (call.arguments config)
    let outcome ← Run.step (launch arguments text)
    let program := arguments.headD ""
    let diagnostics ← Run.ofExcept (Call.interpret config call.timeout program outcome)
    let label ← Run.ofExcept config.label
    Run.notify (.reported label (diagnostics.map Call.finding))
    pure diagnostics

/-- The command that starts the linter: its executable in the first directory that has one, or else
the module of that name run by an interpreter. -/
def linterCommand (name interpreter : String) (executable : String → Bool)
    (directories : List String) : List String :=
  match directories.find? fun d => executable (d ++ "/" ++ name) with
  | some d => [d ++ "/" ++ name]
  | none => [interpreter, "-m", name]

end TidyImports
