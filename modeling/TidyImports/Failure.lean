import TidyImports.Data.Json.Reader
import TidyImports.Data.Toml.Scalar
import TidyImports.Edit.Apply
import TidyImports.Edit.Checked
import TidyImports.Text.Utf8

/-!
# Failures

Everything that can end a request, as causes. The wording of each cause stands in one function.

* `Failure.reportable` tells the failures of a request, which a command reports file by file, from
  the rest, which end the command;
* `Failure.describe` is the line that is reported, `Failure.exitCode` the exit status that it asks
  for.
-/

namespace TidyImports

/-! ## Files -/

inductive FileCause where
  | missing
  | notDirectory
  | isDirectory
  | nameTooLong
  deriving DecidableEq, Repr

def FileCause.number : FileCause → Nat
  | .missing => 2
  | .notDirectory => 20
  | .isDirectory => 21
  | .nameTooLong => 36

def FileCause.message : FileCause → String
  | .missing => "No such file or directory"
  | .notDirectory => "Not a directory"
  | .isDirectory => "Is a directory"
  | .nameTooLong => "File name too long"

/-- Why the system does not open a file that is there, in its own words: a permission is missing,
say, or the disk takes no changes. -/
structure OpenRefusal where
  number : Nat
  message : String
  deriving DecidableEq, Repr

/-- Why a file could not be opened or read; the path is the one that was asked for. -/
inductive FileFault where
  | open (cause : FileCause) (path : String)
  | refused (refusal : OpenRefusal) (path : String)
  | decode (fault : Utf8.Fault)
  /-- The path holds a null character, which no name on a disk does. -/
  | nullByte
  deriving DecidableEq, Repr

/-- The account that the system gives of a file that it does not open. -/
def openMessage (number : Nat) (message path : String) : String :=
  s!"[Errno {number}] {message}: " ++ String.ofList (Text.quoted path.toList)

def FileFault.message : FileFault → String
  | .open cause path => openMessage cause.number cause.message path
  | .refused refusal path => openMessage refusal.number refusal.message path
  | .decode fault => fault.message
  | .nullByte => "embedded null byte"

inductive SourceFault where
  | read (path : String) (fault : FileFault)
  | write (path : String) (fault : FileFault)
  deriving DecidableEq, Repr

def SourceFault.message : SourceFault → String
  | .read path fault => s!"Could not read {path}: {fault.message}"
  | .write path fault => s!"Could not write {path}: {fault.message}"

/-! ## Notebooks and their cells -/

inductive NotebookFault where
  | read (path : String) (fault : FileFault)
  | malformed (path : Option String) (fault : Json.Fault)
  | notObject
  | noCells
  | source (kind : String)
  deriving DecidableEq, Repr

def NotebookFault.message : NotebookFault → String
  | .read path fault => s!"Could not read notebook {path}: {fault.message}"
  | .malformed none fault => s!"Invalid notebook JSON: {fault.message}"
  | .malformed (some path) fault => s!"Invalid notebook JSON in {path}: {fault.message}"
  | .notObject => "Notebook JSON must be an object"
  | .noCells => "Notebook has no 'cells' list"
  | .source kind => s!"Unsupported cell source: {kind}"

/-- Why a cell has no notebook around it; the index is missing for a unit that is no cell. -/
inductive ContextFault where
  | noNotebook (index : Option Int)
  | outside (index : Option Int) (count : Nat)
  deriving DecidableEq, Repr

def cellIndexText : Option Int → String
  | none => "None"
  | some i => toString i

def ContextFault.message : ContextFault → String
  | .noNotebook index => s!"Unable to find the notebook containing cell {cellIndexText index}"
  | .outside index count =>
    s!"Cell {cellIndexText index} is outside the notebook ({count} cell(s))"

/-! ## The linter -/

inductive LinterFault where
  | missing (program : String)
  | timedOut (seconds label : String)
  | failed (label detail : String)
  | unreadable (fault : Json.Fault)
  | notList
  /-- Any other account that a linter gives of its failure. -/
  | reported (message : String)
  deriving DecidableEq, Repr

def LinterFault.message : LinterFault → String
  | .missing program => s!"ruff executable not found: {program}"
  | .timedOut seconds label => s!"ruff did not finish within {seconds}s ({label})"
  | .failed label detail => s!"Failed to run ruff ({label}): {detail}"
  | .unreadable fault => s!"Could not parse ruff output: {fault.message}"
  | .notList => "Unexpected ruff output: expected a JSON list"
  | .reported message => message

/-! ## Settings -/

inductive SettingsFault where
  | strayAutoImport
  | autoImportsKind
  | noVariable (entry : Value)
  | noStatement (entry : Value)
  | blankStatement
  | alwaysImportKind
  | notInteger (field : String)
  | lineLengthLow
  | linesAfterLow
  | depthLimitLow
  | timeoutLow
  | notBoolean (name : String) (text : Text)
  | notIntegerText (name : String) (text : Text)
  | notNumber (name : String) (text : Text)

def SettingsFault.message : SettingsFault → String
  | .strayAutoImport => "auto_imports must contain AutoImport entries"
  | .autoImportsKind => "auto_imports must be a list of tables"
  | .noVariable entry => "auto_imports entry is missing 'variable': " ++ entry.literal
  | .noStatement entry => "auto_imports entry is missing 'import': " ++ entry.literal
  | .blankStatement => "always_import must contain non-empty strings"
  | .alwaysImportKind => "always_import must be a list of strings"
  | .notInteger field => s!"{field} must be an integer"
  | .lineLengthLow => "line_length must be positive"
  | .linesAfterLow => "lines_after_imports must be -1 or greater"
  | .depthLimitLow => "depth_limit must be non-negative"
  | .timeoutLow => "oracle_timeout must be positive"
  | .notBoolean name text => s!"{name} must be a boolean, got " ++ String.ofList (Text.quoted text)
  | .notIntegerText name text =>
    s!"{name} must be an integer, got " ++ String.ofList (Text.quoted text)
  | .notNumber name text => s!"{name} must be a number, got " ++ String.ofList (Text.quoted text)

/-! ## Values -/

/-- A value of the right kind that makes no sense where it stands. -/
inductive Invalid where
  | span (fault : SpanFault)
  | numeral (fault : Numeral.Fault)
  | notANumber
  | unwritable
  | linterSettings (keys : List String)
  | settings (fault : SettingsFault)
  | ending (text : Text)
  /-- The spelling of an ending holds a null character. -/
  | nullCharacter
  | nullByte

def Invalid.message : Invalid → String
  | .span fault => fault.message
  | .numeral fault => fault.message
  | .notANumber => "cannot convert float NaN to integer"
  | .unwritable => Numeral.tooLongMessage ""
  | .linterSettings keys => "Unsupported oracle setting(s): " ++ ", ".intercalate keys
  | .settings fault => fault.message
  | .ending text => "illegal newline value: " ++ String.ofList text
  | .nullCharacter => "embedded null character"
  | .nullByte => FileFault.nullByte.message

/-- A value of a kind that an operation does not take. -/
inductive Misuse where
  | wrongKind
  | notTable
  | missingKey
  | noSuchIndex
  | infinite
  | markup
  deriving DecidableEq, Repr

/-! ## All failures -/

inductive Failure where
  | disabled
  | patch (fault : PatchFault)
  | source (fault : SourceFault)
  | notebook (fault : NotebookFault)
  | context (fault : ContextFault)
  /-- A linter call failed; inside a fixing run, with the text reached and the batches behind it. -/
  | linter (fault : LinterFault) (text : Text) (batches : List Batch)
  | depthLimit (limit : Int) (text : Text) (batches : List Batch)
  | invalid (what : Invalid)
  | undecodable (fault : Utf8.Fault)
  /-- A path could not even be looked up, the folder to start from is gone, or a program does not
  start. -/
  | lookup (cause : FileCause) (path : String)
  | misuse (how : Misuse)

namespace Failure

def message : Failure → String
  | .disabled =>
    "The import formatter is not enabled. " ++
      "Set `enabled = true` under [tool.important] or export IMPORTANT_ENABLED=1."
  | .patch fault => fault.message
  | .source fault => fault.message
  | .notebook fault => fault.message
  | .context fault => fault.message
  | .linter fault _ _ => fault.message
  | .depthLimit limit _ _ =>
    s!"Formatting error (depth-limit {limit} exceeded). " ++
      "Please open an issue and include the contents of your file."
  | .invalid what => what.message
  | .undecodable fault => fault.message
  | .lookup cause path => (FileFault.open cause path).message
  | .misuse _ => ""

/-- Whether a command reports the failure beside the file that it concerns. -/
def reportable : Failure → Bool
  | .invalid _ | .undecodable _ | .lookup .. | .misuse _ => false
  | _ => true

/-- The batches that had been applied when a fixing run failed. -/
def discarded : Failure → List Batch
  | .linter _ _ batches | .depthLimit _ _ batches => batches
  | _ => []

def describe (f : Failure) : String :=
  if f.discarded.isEmpty then f.message
  else s!"{f.message} ({f.discarded.length} edit batch(es) were discarded)"

/-- Fixes that never settle are no fault of the input. -/
def exitCode : Failure → Nat
  | .depthLimit .. => 2
  | _ => 1

end Failure

def SettingsFault.failure (fault : SettingsFault) : Failure := .invalid (.settings fault)

/-- The failure of reading or writing a file; an impossible name is no fault of the file. -/
def FileFault.failure (ofFile : FileFault → Failure) : FileFault → Failure
  | .nullByte => .invalid .nullByte
  | fault => ofFile fault

/-- A failure where an integer in the value has too many digits to be written. -/
def Value.checkWritable (v : Value) : Except Failure Unit :=
  if v.tooLong then .error (.invalid .unwritable) else .ok ()

/-- The failure of writing a value as JSON, which ends at the first obstacle. -/
def Value.checkJson (v : Value) : Except Failure Unit :=
  match v.obstacle? with
  | none => .ok ()
  | some .moment => .error (.misuse .wrongKind)
  | some .digits => .error (.invalid .unwritable)

end TidyImports
