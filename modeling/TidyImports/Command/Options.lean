import TidyImports.Settings.Sources

/-!
# Command lines

`Invocation.parse` reads the words of a command line. Options may stand between arguments, two
hyphens end them, and a value may follow its option or stand behind an equals sign; what cannot be
read is a `usage` fault. These are the rules of a library for command lines, kept here as far as the
options of this program need them. Results about commands start from the `Invocation` alone: they
take as given that the words are read as it.
-/

namespace TidyImports

structure FormatOptions where
  paths : List String
  check : Bool := false
  diff : Bool := false
  narrow : Bool := false
  cell : Option Int := none
  removeUnused : Option Bool := none
  organize : Option Bool := none
  depthLimit : Option Int := none
  lineLength : Option Int := none
  stdinName : Option String := none
  json : Bool := false
  quiet : Bool := false
  verbose : Bool := false

structure UndefinedOptions where
  path : String
  cell : Option Int := none
  json : Bool := false
  verbose : Bool := false

inductive Invocation where
  | version
  | help
  | format (options : FormatOptions)
  | undefined (options : UndefinedOptions)
  | config (json : Bool)

inductive UsageFault where
  | usage
  deriving DecidableEq, Repr

/-! ## Words -/

/-- The options of a command by name, and whether each takes a value. -/
abbrev OptionTable := List (String × Bool)

/-- The options that were given, in order, and the other words. -/
structure Words where
  options : List (String × Option String)
  arguments : List String

def Words.withOption (name : String) (value : Option String) (w : Words) : Words :=
  { w with options := (name, value) :: w.options }

def Words.withArgument (word : String) (w : Words) : Words :=
  { w with arguments := word :: w.arguments }

/-- The name of an option and the value behind its equals sign. -/
def splitOption (word : String) : String × Option String :=
  match word.toList.span (· ≠ '=') with
  | (name, '=' :: value) => (String.ofList name, some (String.ofList value))
  | _ => (word, none)

/-- Single letters behind one hyphen, each of them an option without a value. -/
def letters (table : OptionTable) : List Char → Except UsageFault (List (String × Option String))
  | [] => .ok []
  | c :: rest =>
    match table.lookup (String.ofList ['-', c]) with
    | some false => (letters table rest).map ((String.ofList ['-', c], none) :: ·)
    | _ => .error .usage

/-- Reads words; `mixed` says whether options may follow an argument. -/
def readWords (table : OptionTable) (mixed : Bool) : List String → Except UsageFault Words
  | [] => .ok ⟨[], []⟩
  | word :: rest =>
    if word = "--" then .ok ⟨[], rest⟩
    else if word.startsWith "-" && word != "-" then
      let (name, attached) := splitOption word
      match table.lookup name, attached, rest with
      | some true, some value, rest => (readWords table mixed rest).map (·.withOption name value)
      | some true, none, value :: rest =>
        (readWords table mixed rest).map (·.withOption name (some value))
      | some true, none, [] => .error .usage
      | some false, none, rest => (readWords table mixed rest).map (·.withOption name none)
      | some false, some _, _ => .error .usage
      | none, _, rest =>
        if word.startsWith "--" then .error .usage
        else do
          let options ← letters table (word.toList.drop 1)
          let words ← readWords table mixed rest
          pure { words with options := options ++ words.options }
    else if mixed then (readWords table mixed rest).map (·.withArgument word)
    else .ok ⟨[], word :: rest⟩

namespace Words

def has (w : Words) (name : String) : Bool := w.options.any fun o => o.1 == name

/-- The value of the last option of that name. -/
def value? (w : Words) (name : String) : Option String := (w.options.reverse.lookup name).join

/-- The last of two opposite options decides. -/
def pair? (w : Words) (yes no : String) : Option Bool :=
  (w.options.reverse.find? fun o => o.1 == yes || o.1 == no).map fun o => o.1 == yes

def integer? (w : Words) (name : String) : Except UsageFault (Option Int) :=
  match w.value? name with
  | none => .ok none
  | some text =>
    match Numeral.readInt text.toList with
    | .ok n => .ok (some n)
    | .error _ => .error .usage

/-- An integer option that a variable may set; an empty variable sets nothing. -/
def integerOr? (w : Words) (env : Environment) (name : String) (field : Field) :
    Except UsageFault (Option Int) :=
  if w.has name then w.integer? name
  else
    match env.get? field.variableName with
    | none | some [] => .ok none
    | some text =>
      match Numeral.readInt text with
      | .ok n => .ok (some n)
      | .error _ => .error .usage

end Words

/-! ## Commands -/

namespace Invocation

def mainTable : OptionTable := [("--version", false), ("-V", false), ("--help", false)]

def formatTable : OptionTable :=
  [("--check", false), ("--diff", false), ("--narrow", false), ("--cell", true),
    ("--remove-unused", false), ("--keep-unused", false), ("--organize", false),
    ("--no-organize", false), ("--depth-limit", true), ("--line-length", true),
    ("--stdin-filename", true), ("--json", false), ("--quiet", false), ("-q", false),
    ("--verbose", false), ("--help", false)]

def undefinedTable : OptionTable :=
  [("--cell", true), ("--json", false), ("--verbose", false), ("--help", false)]

def configTable : OptionTable := [("--json", false), ("--help", false)]

def readFormat (env : Environment) (words : List String) : Except UsageFault Invocation := do
  let w ← readWords formatTable true words
  if w.has "--help" then pure .help
  else
    let cell ← w.integer? "--cell"
    let depthLimit ← w.integerOr? env "--depth-limit" .depthLimit
    let lineLength ← w.integerOr? env "--line-length" .lineLength
    if w.arguments.isEmpty then .error .usage
    else
      pure (.format {
        paths := w.arguments, check := w.has "--check", diff := w.has "--diff"
        narrow := w.has "--narrow", cell := cell
        removeUnused := w.pair? "--remove-unused" "--keep-unused"
        organize := w.pair? "--organize" "--no-organize"
        depthLimit := depthLimit, lineLength := lineLength
        stdinName := w.value? "--stdin-filename", json := w.has "--json"
        quiet := w.has "--quiet" || w.has "-q", verbose := w.has "--verbose" })

def readUndefined (words : List String) : Except UsageFault Invocation := do
  let w ← readWords undefinedTable true words
  if w.has "--help" then pure .help
  else
    let cell ← w.integer? "--cell"
    match w.arguments with
    | [path] =>
      pure (.undefined { path := path, cell := cell, json := w.has "--json", verbose := w.has "--verbose" })
    | _ => .error .usage

def readConfig (words : List String) : Except UsageFault Invocation := do
  let w ← readWords configTable true words
  if w.has "--help" then pure .help
  else if w.arguments.isEmpty then pure (.config (w.has "--json"))
  else .error .usage

/-- What the options before a command ask for by themselves, and the words from the command on. -/
def leading (words : List String) : Except UsageFault (Option Invocation × List String) := do
  let w ← readWords mainTable false words
  let asked :=
    match w.options with
    | [] => none
    | ("--help", _) :: _ => some help
    | _ :: _ => some version
  pure (asked, w.arguments)

/-- Reads a command line; asking for the version comes before the command is looked at. Where no
command of that name exists its words are read as options once more, since two hyphens may stand
before them. -/
def parse (env : Environment) (words : List String) : Except UsageFault Invocation := do
  match ← leading words with
  | (some invocation, _) => pure invocation
  | (none, "format" :: rest) => readFormat env rest
  | (none, "undefined" :: rest) => readUndefined rest
  | (none, "config" :: rest) => readConfig rest
  | (none, rest) =>
    match ← leading rest with
    | (some invocation, _) => pure invocation
    | (none, _) => .error .usage

end Invocation
end TidyImports
