import TidyImports.Data.Toml.Reader
import TidyImports.Disk.Source
import TidyImports.Settings.Basic

/-!
# Where settings come from

Four sources may set a field: options of the command line, environment variables, the nearest
`.importantrc` and the `tool.important` table of the nearest `pyproject.toml`. `loadSettings` takes
each field from the first of them that sets it, and from the defaults where none does.
-/

namespace TidyImports

/-! ## Fields and sources -/

inductive Field where
  | enabled
  | autoImports
  | alwaysImport
  | removeUnused
  | organize
  | lineLength
  | linesAfter
  | depthLimit
  | timeout
  deriving DecidableEq, Repr

namespace Field

def name : Field → String
  | .enabled => "enabled"
  | .autoImports => "auto_imports"
  | .alwaysImport => "always_import"
  | .removeUnused => "remove_unused_imports"
  | .organize => "organize_imports"
  | .lineLength => "line_length"
  | .linesAfter => "lines_after_imports"
  | .depthLimit => "depth_limit"
  | .timeout => "oracle_timeout"

def all : List Field :=
  [.enabled, .autoImports, .alwaysImport, .removeUnused, .organize, .lineLength, .linesAfter,
    .depthLimit, .timeout]

/-- The environment variable of a field. -/
def variableName (f : Field) : String :=
  "IMPORTANT_" ++ String.ofList (f.name.toList.map Char.toUpper)

/-- The field of a key; hyphens stand for low lines. -/
def ofKey? (key : String) : Option Field :=
  let name := String.ofList (key.toList.map fun c => if c = '-' then '_' else c)
  all.find? fun f => f.name == name

end Field

/-- The values that one source gives; of two for one field the later counts, and `null` sets
nothing. -/
abbrev Source := List (Field × Value)

namespace Source

def ofTable (t : Table) : Source :=
  t.filterMap fun (key, v) => (Field.ofKey? key).map fun f => (f, v)

def get? (s : Source) (f : Field) : Option Value :=
  match (s.reverse.lookup f) with
  | some .null | none => none
  | some v => some v

/-- The value of a field from the first source that sets it. -/
def pick (sources : List Source) (f : Field) : Option Value :=
  sources.findSome? fun s => s.get? f

end Source

/-! ## Files -/

def tomlFailure : Toml.Fault → Option Failure
  | .malformed => none
  | .tooLong n => some (.invalid (.numeral (.tooLong n)))

/-- The table of a configuration file; one that is not opened or is no TOML document counts as
empty. -/
def readConfig (disk : Disk) (p : PathName) : Except Failure Table :=
  match disk.readRaw p with
  | .error (.open ..) | .error (.refused ..) => .ok []
  | .error (.decode fault) => .error (.undecodable fault)
  | .error .nullByte => .error (.invalid .nullByte)
  | .ok text =>
    match Toml.parse text with
    | .ok t => .ok t
    | .error fault =>
      match tomlFailure fault with
      | none => .ok []
      | some failure => .error failure

/-- A table within a table, empty where it is missing. -/
def section? (t : Table) (key : String) : Except Failure Table :=
  match t.get? key with
  | none => .ok []
  | some (.table u) => .ok u
  | some _ => .error (.misuse .notTable)

def rcName : String := ".importantrc"

def projectName : String := "pyproject.toml"

def rcSource (disk : Disk) (start : PathName) : Except Failure Source := do
  match ← disk.findUpward (.ofString rcName) start with
  | none => .ok []
  | some p => (readConfig disk p).map Source.ofTable

def projectSource (disk : Disk) (start : PathName) : Except Failure Source := do
  match ← disk.findUpward (.ofString projectName) start with
  | none => .ok []
  | some p =>
    let t ← readConfig disk p
    let tool ← section? t "tool"
    let own ← section? tool "important"
    pure (Source.ofTable own)

/-! ## The environment -/

abbrev Environment := List (String × Text)

namespace Environment

def get? (env : Environment) (name : String) : Option Text := env.lookup name

/-- Sets or unsets a variable. -/
def set (env : Environment) (name : String) (value : Option Text) : Environment :=
  let rest := env.filter fun e => e.1 != name
  match value with
  | none => rest
  | some text => (name, text) :: rest

end Environment

def trueWords : List String := ["1", "true", "yes", "on"]

def falseWords : List String := ["0", "false", "no", "off"]

def parseBool (name : String) (text : Text) : Except Failure Value :=
  let word := String.ofList ((Text.strip text).map Char.toLower)
  if word ∈ trueWords then .ok (.bool true)
  else if word ∈ falseWords then .ok (.bool false)
  else .error (SettingsFault.notBoolean name text).failure

def parseInt (name : String) (text : Text) : Except Failure Value :=
  match Numeral.readInt text with
  | .ok n => .ok (.int n)
  | .error _ => .error (SettingsFault.notIntegerText name text).failure

def parseNumber (name : String) (text : Text) : Except Failure Value :=
  match Numeral.readDouble? text with
  | some x => .ok (.float x)
  | none => .error (SettingsFault.notNumber name text).failure

/-- Statements between semicolons; blank ones are left out. -/
def parseStatements (_ : String) (text : Text) : Except Failure Value :=
  let pieces := ((Text.splitAt ';' text).map Text.strip).filter fun p => !p.isEmpty
  .ok (.list (pieces.map fun p => .text (String.ofList p)))

/-- The fields that variables set, in the order in which they are read, with their readers. -/
def variableReaders : List (Field × (String → Text → Except Failure Value)) :=
  [(.enabled, parseBool), (.removeUnused, parseBool), (.organize, parseBool),
    (.lineLength, parseInt), (.linesAfter, parseInt), (.depthLimit, parseInt),
    (.timeout, parseNumber), (.alwaysImport, parseStatements)]

def readVariables (env : Environment) :
    List (Field × (String → Text → Except Failure Value)) → Except Failure Source
  | [] => .ok []
  | (f, read) :: rest =>
    match env.get? f.variableName with
    | none => readVariables env rest
    | some text => do
      let v ← read f.variableName text
      let more ← readVariables env rest
      pure ((f, v) :: more)

def environmentSource (env : Environment) : Except Failure Source :=
  readVariables env variableReaders

/-! ## Together -/

/-- The entries of a list of tables. An override given by a program, which no command line is, may
also hold entries that are automatic imports already; these have no value that stands for them. -/
def readAutoImports : List Value → Except Failure (List (Option AutoImport))
  | [] => .ok []
  | v :: rest => do
    let a ← AutoImport.ofValue v
    let more ← readAutoImports rest
    pure (some a :: more)

def coerceAutoImports : Option Value → Except Failure (List (Option AutoImport))
  | none => .ok (AutoImport.defaults.map some)
  | some (.list entries) => readAutoImports entries
  | some _ => .error SettingsFault.autoImportsKind.failure

def coerceStatements : Option Value → Except Failure (List Value)
  | none => .ok []
  | some (.list items) => .ok items
  | some _ => .error SettingsFault.alwaysImportKind.failure

/-- An integer timeout becomes the double nearest to it, which must not be infinite. -/
def coerceTimeout : Option Value → Except Failure Value
  | none => .ok (.float (Binary64.ofInt 30))
  | some v =>
    match v with
    | .bool b => .ok (.float (Binary64.ofInt (if b then 1 else 0)))
    | .int n =>
      let x := Binary64.ofInt n
      if x.isFinite then .ok (.float x) else .error (.misuse .infinite)
    | v => .ok v

/-- The draft of the values that the sources give, the first of them counting most. -/
def Draft.ofSources (sources : List Source) : Except Failure Draft := do
  let value := fun f => Source.pick sources f
  let autoImports ← coerceAutoImports (value .autoImports)
  let alwaysImport ← coerceStatements (value .alwaysImport)
  let timeout ← coerceTimeout (value .timeout)
  pure {
    enabled := (value .enabled).getD (.bool true)
    autoImports := autoImports
    alwaysImport := alwaysImport
    removeUnused := (value .removeUnused).getD (.bool false)
    organize := (value .organize).getD (.bool true)
    lineLength := (value .lineLength).getD (.int 88)
    linesAfter := (value .linesAfter).getD (.int 2)
    depthLimit := (value .depthLimit).getD (.int 5)
    timeout := timeout }

/-- The settings for a starting folder: overrides before variables before the two files. -/
def loadSettings (disk : Disk) (env : Environment) (overrides : Table) (start : PathName) :
    Except Failure Settings := do
  let project ← projectSource disk start
  let rc ← rcSource disk start
  let environment ← environmentSource env
  let draft ← Draft.ofSources [Source.ofTable overrides, environment, rc, project]
  draft.settle

/-! ## Snapshots -/

/-- Settings with the import map made from them. -/
structure Snapshot where
  settings : Settings
  imports : ImportMap

def Snapshot.of (s : Settings) : Except Failure Snapshot := s.importMap.map fun map => ⟨s, map⟩

end TidyImports
