import TidyImports.Command.Run

/-!
# The program

Loads the files that a command line can reach, runs the command on them, writes back the files that
changed, and prints its output. No process is started from here, so that the linter counts as not
installed.
-/

namespace TidyImports.Program

/-- The places whose contents a command line can ask for: its words as path names, and the
configuration files above the working directory. -/
def reach (current : PathName) (words : List String) : List Place :=
  let configs := [rcName, projectName].flatMap fun name =>
    (Disk.upward current.parts).map (· ++ [name])
  configs ++ words.map fun word => (PathName.resolve current (.ofString word)).parts

/-- Why the system does not let a file be opened, if it does not. -/
def refusal? {α : Type} (opening : IO α) : IO (Option OpenRefusal) := do
  match ← opening.toBaseIO with
  | .error (.permissionDenied _ number message) => return some ⟨number.toNat, message⟩
  | _ => return none

/-- What stands at a place, and whether it can be opened. A file that is not opened for reading is
loaded as an empty one, and what fails in another way counts as missing. -/
def load (place : Place) : IO (Option (Node × Access)) := do
  let path := PathName.toString ⟨"/", place⟩
  match ← (IO.FS.readBinFile path).toBaseIO with
  | .ok bytes =>
    -- opened for both, a file keeps what it holds
    let writing ← refusal? (IO.FS.Handle.mk path .readWrite)
    return some (.file bytes.toList, { writing := writing })
  | .error (.permissionDenied ..) =>
    let reading ← refusal? (IO.FS.Handle.mk path .read)
    let writing ← refusal? (IO.FS.Handle.mk path .append)
    return some (.file [], { reading := reading, writing := writing })
  | .error (.inappropriateType ..) => return some (.folder, {})
  | .error _ => return none

def loadDisk (disk : Disk) (guard : Guard) : List Place → IO (Disk × Guard)
  | [] => return (disk, guard)
  | place :: rest => do
    match ← load place with
    | none => loadDisk disk guard rest
    | some (node, access) =>
      loadDisk (disk.add place node) (fun other => if other = place then access else guard other)
        rest

def loadEnvironment : List Field → IO Environment
  | [] => return []
  | f :: rest => do
    let env ← loadEnvironment rest
    match ← IO.getEnv f.variableName with
    | none => return env
    | some value => return (f.variableName, value.toList) :: env

/-- Writes the files that are not as they were before. -/
def store (before : Disk) : List (Place × Node) → IO Unit
  | [] => return
  | (place, node) :: rest => do
    match node with
    | .file bytes =>
      if before.node? place != some node then
        IO.FS.writeBinFile (PathName.toString ⟨"/", place⟩) ⟨bytes.toArray⟩
    | .folder => pure ()
    store before rest

def print (stream : IO.FS.Stream) (text : Text) : IO Unit :=
  stream.write ⟨(Utf8.encode text).toArray⟩

def missing : Launcher (World Unit) := fun _ _ w => (.missing, w)

def run (words : List String) : IO UInt32 := do
  let current := PathName.ofString (toString (← IO.currentDir))
  let empty : Disk := ⟨[], current.parts⟩
  let (disk, guard) ←
    loadDisk (empty.add current.parts .folder) Guard.none (reach current words)
  let env ← loadEnvironment Field.all
  let input ← if words.contains stdinPath then (← IO.getStdin).readToEnd else pure ""
  let w : World Unit :=
    { disk := disk, env := env, input := input.toList, output := [], errors := [], linter := ()
      guard := guard }
  let (result, w) := runCommand missing words w
  store disk w.disk.entries
  print (← IO.getStdout) w.output
  print (← IO.getStderr) w.errors
  match result with
  | .usage => IO.eprintln "Usage: important [--version] format|undefined|config"
  | .crash failure => IO.eprintln failure.message
  | .exit _ => pure ()
  return UInt32.ofNat result.status

end TidyImports.Program

def main (words : List String) : IO UInt32 := TidyImports.Program.run words
