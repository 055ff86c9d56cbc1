import TidyImports.Data.Json.Writer
import TidyImports.Failure

/-!
# Linter configurations

A `Config` selects the rules of one pass and their parameters. `Config.ofEntries` builds one from
dotted setting names and `Config.toEntries` gives the set fields back; `Config.overrides` writes
them as the lines `key = value` that a linter takes. The passes of this program are
`Config.undefinedNames`, `Config.addImports`, `Config.removeUnused` and `Config.organizeImports`.
-/

namespace TidyImports

/-- A field that is `null`, or a list that is `none`, is left to the linter. -/
structure Config where
  select : Option (List Value) := some []
  requiredImports : Option (List Value) := none
  linesAfterImports : Value := .null
  combineAsImports : Value := .null
  splitOnTrailingComma : Value := .null
  lineLength : Value := .null
  skipMagicTrailingComma : Value := .null
  /-- A label for messages; configurations are equal without regard to it. -/
  name : String := ""

namespace Config

/-! ## Setting names -/

inductive Key where
  | select
  | requiredImports
  | linesAfterImports
  | combineAsImports
  | splitOnTrailingComma
  | lineLength
  | skipMagicTrailingComma
  deriving DecidableEq, Repr

def Key.name : Key → String
  | .select => "lint.select"
  | .requiredImports => "lint.isort.required-imports"
  | .linesAfterImports => "lint.isort.lines-after-imports"
  | .combineAsImports => "lint.isort.combine-as-imports"
  | .splitOnTrailingComma => "lint.isort.split-on-trailing-comma"
  | .lineLength => "line-length"
  | .skipMagicTrailingComma => "format.skip-magic-trailing-comma"

/-- All settings, in the order in which they are written. -/
def Key.all : List Key :=
  [.select, .requiredImports, .linesAfterImports, .combineAsImports, .splitOnTrailingComma,
    .lineLength, .skipMagicTrailingComma]

def Key.ofName? (name : String) : Option Key := Key.all.find? fun k => k.name == name

/-! ## From and to entries -/

/-- The items of a list field; what has no items is refused. -/
def items? : Value → Except Failure (Option (List Value))
  | .null => .ok none
  | v =>
    match v.items? with
    | some items => .ok (some items)
    | none => .error (.misuse .wrongKind)

def set (c : Config) (key : Key) (v : Value) : Except Failure Config :=
  match key with
  | .select => do pure { c with select := ← items? v }
  | .requiredImports => do pure { c with requiredImports := ← items? v }
  | .linesAfterImports => .ok { c with linesAfterImports := v }
  | .combineAsImports => .ok { c with combineAsImports := v }
  | .splitOnTrailingComma => .ok { c with splitOnTrailingComma := v }
  | .lineLength => .ok { c with lineLength := v }
  | .skipMagicTrailingComma => .ok { c with skipMagicTrailingComma := v }

/-- Sets one field after the other; names that are no setting change nothing here. -/
def setAll (c : Config) : Table → Except Failure Config
  | [] => .ok c
  | (name, v) :: rest =>
    match Key.ofName? name with
    | none => setAll c rest
    | some key => do setAll (← c.set key v) rest

/-- The names that are no setting, in order. -/
def unknown (entries : Table) : List String :=
  (entries.keys.filter fun k => (Key.ofName? k).isNone).mergeSort fun a b => decide (a ≤ b)

def ofEntries (entries : Table) (name : String) : Except Failure Config :=
  match unknown entries with
  | [] => setAll { name := name } entries
  | keys => .error (.invalid (.linterSettings keys))

/-- The value of a field, `null` for one that is not set. -/
def get (c : Config) : Key → Value
  | .select =>
    match c.select with
    | none | some [] => .null
    | some items => .list items
  | .requiredImports =>
    match c.requiredImports with
    | none => .null
    | some items => .list items
  | .linesAfterImports => c.linesAfterImports
  | .combineAsImports => c.combineAsImports
  | .splitOnTrailingComma => c.splitOnTrailingComma
  | .lineLength => c.lineLength
  | .skipMagicTrailingComma => c.skipMagicTrailingComma

/-- The fields that are set. -/
def toEntries (c : Config) : Table :=
  (Key.all.map fun k => (k.name, c.get k)).filter fun e => !e.2.isNull

/-! ## Overrides and labels -/

/-- A setting value as a linter reads it: a JSON text on one line. -/
def settingText (v : Value) : Except Failure String := do
  v.checkJson
  pure (Json.render .inline v)

def overrideLines : Table → Except Failure (List String)
  | [] => .ok []
  | (key, v) :: rest => do
    let text ← settingText v
    let more ← overrideLines rest
    pure ((key ++ " = " ++ text) :: more)

def overrides (c : Config) : Except Failure (List String) := overrideLines c.toEntries

/-- The texts of a list that holds nothing else. -/
def texts? : List Value → Option (List String)
  | [] => some []
  | .text s :: rest => (texts? rest).map (s :: ·)
  | _ :: _ => none

def orElse (s t : String) : String := if s.isEmpty then t else s

/-- The name, or else the selected rules, for messages. -/
def label (c : Config) : Except Failure String :=
  if !c.name.isEmpty then .ok c.name
  else
    match c.select.bind texts? with
    | some rules => .ok (orElse (",".intercalate rules) "default")
    | none => .error (.misuse .wrongKind)

/-! ## Equality -/

def sameOption : Option (List Value) → Option (List Value) → Bool
  | none, none => true
  | some xs, some ys => Value.sameItems xs ys
  | _, _ => false

def same (c d : Config) : Bool :=
  sameOption c.select d.select && sameOption c.requiredImports d.requiredImports &&
    c.linesAfterImports.same d.linesAfterImports && c.combineAsImports.same d.combineAsImports &&
    c.splitOnTrailingComma.same d.splitOnTrailingComma && c.lineLength.same d.lineLength &&
    c.skipMagicTrailingComma.same d.skipMagicTrailingComma

/-! ## Passes -/

def undefinedRule : String := "F821"
def unusedRule : String := "F401"
def unsortedRule : String := "I001"
def missingRule : String := "I002"

/-- Reports undefined names and fixes nothing. -/
def undefinedNames : Config :=
  { select := some [.text undefinedRule], name := "undefined-names" }

/-- Inserts each of the statements that is missing. -/
def addImports (imports : List Value) (linesAfter : Value) : Config :=
  { select := some [.text missingRule]
    requiredImports := some imports
    linesAfterImports := linesAfter
    combineAsImports := .bool true
    name := "add-imports" }

/-- Deletes unused imports other than those to keep. -/
def removeUnused (keep : List Value) : Config :=
  { select := some [.text unusedRule], requiredImports := some keep, name := "remove-unused" }

/-- Sorts the import block; a trailing comma never keeps an import on several lines. -/
def organizeImports (lineLength linesAfter : Value) : Config :=
  { select := some [.text unsortedRule]
    linesAfterImports := linesAfter
    combineAsImports := .bool true
    splitOnTrailingComma := .bool false
    lineLength := lineLength
    skipMagicTrailingComma := .bool true
    name := "organize-imports" }

/-- The blank lines after the import block where nothing else is asked for. -/
def defaultLinesAfter : Value := .int 2

end Config
end TidyImports
