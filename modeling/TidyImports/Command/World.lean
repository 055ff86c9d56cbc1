import TidyImports.Command.Options
import TidyImports.Console.Codes
import TidyImports.Console.Grid
import TidyImports.Data.Json.Writer
import TidyImports.Session

/-!
# What a command works with

A command sees a disk, an environment and its standard input, and writes to its standard output and
its error output. `Command` is a computation over these that may stop early, with an exit status or
with a failure that no command reports.

The guard of a world is about the inputs of a command. A configuration file that is not opened
counts as empty, so that it stands on the disk as an empty one.
-/

namespace TidyImports

/-- The surroundings of a command; `linter` is the state of the linter. -/
structure World (ρ : Type) where
  disk : Disk
  env : Environment
  /-- What standard input still holds. -/
  input : Text
  output : Text
  errors : Text
  linter : ρ
  /-- What keeps inputs from being opened. -/
  guard : Guard := Guard.none

inductive Stop where
  | exit (status : Nat)
  | crash (failure : Failure)

/-- The log moved to the error output; without `verbose` only its warnings are shown. -/
def Session.shownLog {ρ : Type} (verbose : Bool) (s : Session (World ρ)) : Session (World ρ) :=
  let shown := s.log.filter fun n => verbose || n.isWarning
  let text := shown.flatMap fun n => n.line.toList ++ ['\n']
  { s with world := { s.world with errors := s.world.errors ++ text }, log := [] }

abbrev Command (ρ : Type) := ExceptT Stop (StateM (Session (World ρ)))

namespace Command

variable {ρ α : Type}

def world : Command ρ (World ρ) := do return (← get).world

def changeWorld (f : World ρ → World ρ) : Command ρ Unit :=
  modify fun s => { s with world := f s.world }

/-- What a command came to, and the session after it. -/
def outcome (command : Command ρ α) (s : Session (World ρ)) :
    Except Stop α × Session (World ρ) :=
  (ExceptT.run command).run s

def stop (status : Nat) : Command ρ α := throw (.exit status)

/-- A failure of a part of the command, which the command sees. -/
def attempt (run : Run (World ρ) α) : Command ρ (Except Failure α) :=
  ExceptT.lift (m := StateM (Session (World ρ))) run.run

def ofExcept (r : Except Failure α) : Command ρ α :=
  match r with
  | .ok a => pure a
  | .error failure => throw (.crash failure)

/-! ## Output -/

/-- The width that output is broken at. -/
def lineWidth : Nat := 1000

def printedLines (markup : Text) : Except Failure Text := do
  let lines ← (← Markup.render markup).lines .none .fold lineWidth
  pure (lines.flatMap (· ++ ['\n']))

def write (text : Text) : Command ρ Unit :=
  changeWorld fun w => { w with output := w.output ++ text }

def flushLog (verbose : Bool) : Command ρ Unit := modify (·.shownLog verbose)

def writeError (text : Text) : Command ρ Unit :=
  changeWorld fun w => { w with errors := w.errors ++ text }

/-- A line of markup. -/
def say (markup : String) : Command ρ Unit := do
  write (← ofExcept (printedLines markup.toList))

def succeed (message : String) : Command ρ Unit := say ("[green]Success:[/green] " ++ message)

/-- An error line of markup, behind what the log holds. -/
def complain (verbose : Bool) (message : String) : Command ρ Unit := do
  let line ← ofExcept (printedLines ("[red]Error:[/red] " ++ message).toList)
  flushLog verbose
  writeError line

/-- A text without markup, as it is but for terminal codes. -/
def writePlain (text : Text) : Command ρ Unit := write text.withoutCodes

/-- An error line without markup, and the end of the command. -/
def refuse (message : String) : Command ρ α := do
  writeError (Text.withoutCodes ("Error: " ++ message ++ "\n").toList)
  stop 1

/-- A value as indented JSON. -/
def writeJson (v : Value) : Command ρ Unit := do
  ofExcept v.checkJson
  write (Json.write (.indented 2) 0 v ++ ['\n'])

/-! ## Input files -/

def resolve (path : String) : Command ρ PathName := do
  ofExcept ((← world).disk.resolve (.ofString path))

inductive Suffix where
  | python
  | notebook
  deriving DecidableEq, Repr

/-- What the suffix of a file name says about the file. -/
def Suffix.of? (p : PathName) : Option Suffix :=
  if p.suffix = ".py" ∨ p.suffix = ".pyi" then some .python
  else if p.suffix = ".ipynb" then some .notebook
  else none

def isNotebook (p : PathName) : Bool := Suffix.of? p == some .notebook

/-- Why a path with that at its place cannot be an input, if it cannot. -/
def inputFault (what : String) (p : PathName) : Option Node → Option String
  | none => some s!"{what} does not exist: {p.toString}"
  | some .folder => some s!"{what} is not a file: {p.toString}"
  | some (.file _) =>
    if (Suffix.of? p).isSome then none
    else some s!"{what} is not a Python file or notebook: {p.toString}"

def requireInput (what : String) (p : PathName) : Command ρ Unit := do
  match inputFault what p (← ofExcept ((← world).disk.find? p)) with
  | some message => refuse message
  | none => pure ()

/-! ## Settings -/

/-- Overrides from options; an option that was not given sets nothing. -/
def overrides (depthLimit lineLength : Option Int) (removeUnused organize : Option Bool) : Table :=
  (depthLimit.map fun n => ("depth_limit", Value.int n)).toList ++
  (lineLength.map fun n => ("line_length", Value.int n)).toList ++
  (removeUnused.map fun b => ("remove_unused_imports", Value.bool b)).toList ++
  (organize.map fun b => ("organize_imports", Value.bool b)).toList

/-- The settings of a command; values that make no sense end it. -/
def settings (overrides : Table) (start : PathName) : Command ρ Settings := do
  let w ← world
  match loadSettings w.disk w.env overrides start with
  | .ok s => pure s
  | .error (.invalid what) => refuse ("Invalid configuration: " ++ what.message)
  | .error (.undecodable fault) => refuse ("Invalid configuration: " ++ fault.message)
  | .error failure => throw (.crash failure)

end Command
end TidyImports
