import TidyImports.Command.Undefined

/-!
# Running a command line

`config` shows the settings; `runCommand` reads a command line and runs the command that it names.
-/

namespace TidyImports

def versionText : String := "0.3.0"

namespace Command

variable {ρ : Type}

/-- A field of the settings as it stands in the table. -/
def fieldText (settings : Settings) (key : String) (v : Value) : String :=
  if key = "auto_imports" then
    "\n".intercalate (settings.autoImports.map fun a => a.name.display ++ ": " ++ a.statement.display)
  else if key = "always_import" then
    Config.orElse ("\n".intercalate settings.alwaysImport) "-"
  else v.display

def settingsGrid (settings : Settings) : Grid :=
  { title := "important settings".toList
    columns := [⟨"Setting".toList, .left⟩, ⟨"Value".toList, .left⟩]
    rows := settings.toEntries.map fun (key, v) =>
      [key.toList, (fieldText settings key v).toList] }

def config (json : Bool) : Command ρ Unit := do
  let start := (← world).disk.currentName
  let settings ← settings [] start
  if json then writeJson (.table settings.toEntries)
  else do
    ofExcept (Value.table settings.toEntries).checkWritable
    write (← ofExcept ((settingsGrid settings).render lineWidth))

/-- Whether an invocation shows the whole log. -/
def verbose : Invocation → Bool
  | .format o => o.verbose
  | .undefined o => o.verbose
  | _ => false

def perform (launch : Launcher (World ρ)) : Invocation → Command ρ Unit
  | .version => write ("important version " ++ versionText ++ "\n").toList
  | .help => pure ()
  | .format o => format launch o
  | .undefined o => undefined launch o
  | .config json => config json

end Command

/-- How a command line ended. -/
inductive CommandEnd where
  | usage
  | exit (status : Nat)
  | crash (failure : Failure)

def CommandEnd.status : CommandEnd → Nat
  | .usage => 2
  | .exit status => status
  | .crash _ => 1

def CommandEnd.ofResult : Except Stop Unit → CommandEnd
  | .ok () => .exit 0
  | .error (.exit status) => .exit status
  | .error (.crash failure) => .crash failure

/-- Runs a command line in a world; the log is written out at its end, however that comes. -/
def runCommand {ρ : Type} (launch : Launcher (World ρ)) (words : List String) (w : World ρ) :
    CommandEnd × World ρ :=
  match Invocation.parse w.env words with
  | .error .usage => (.usage, w)
  | .ok invocation =>
    let (result, session) := (Command.perform launch invocation).outcome (.start w)
    let shown := session.shownLog (Command.verbose invocation)
    (.ofResult result, shown.world)

end TidyImports
