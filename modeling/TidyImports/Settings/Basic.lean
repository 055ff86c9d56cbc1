import TidyImports.Failure

/-!
# Settings

What a user may choose. A `Draft` holds the values as they were given; `Draft.settle` checks them
in a fixed order and gives `Settings`. `Settings.importMap` makes the table in which the statements
of a name are looked up.
-/

namespace TidyImports

/-! ## Automatic imports -/

/-- The statement that provides a name. Configuration files give texts; an entry that is made
directly may hold anything, and then provides no name. -/
structure AutoImport where
  name : Value
  statement : Value
  deriving Repr

namespace AutoImport

/-- A text that is not blank. -/
def filled? : Option Value → Option Text
  | some (.text s) => if Text.allBlank s.toList then none else some s.toList
  | _ => none

/-- An entry `variable = …, import = …`, without the white space around both. -/
def ofValue (v : Value) : Except Failure AutoImport :=
  match v with
  | .table t =>
    match filled? (Table.get? t "variable"), filled? (Table.get? t "import") with
    | none, _ => do
      v.checkWritable
      .error (SettingsFault.noVariable v).failure
    | some _, none => do
      v.checkWritable
      .error (SettingsFault.noStatement v).failure
    | some name, some statement =>
      .ok ⟨.text (String.ofList (Text.strip name)), .text (String.ofList (Text.strip statement))⟩
  | _ => .error (.misuse .notTable)

def toValue (a : AutoImport) : Value :=
  .table [("variable", a.name), ("import", a.statement)]

def ofTexts (name statement : String) : AutoImport := ⟨.text name, .text statement⟩

def defaults : List AutoImport :=
  [ofTexts "pd" "import pandas as pd", ofTexts "np" "import numpy as np",
    ofTexts "xr" "import xarray as xr", ofTexts "xrt" "from xarray import testing as xrt"]

end AutoImport

/-! ## Import maps -/

/-- Adds the statements that are not there yet, each once. -/
def extend (imports : List Value) : List Value → List Value
  | [] => imports
  | s :: rest => extend (if imports.any s.same then imports else imports ++ [s]) rest

/-- The statements of each name, names and statements in the order of their declaration. -/
abbrev ImportMap := List (Value × List Value)

namespace ImportMap

/-- Adds a statement to those of its name; of equal names the first one stays. -/
def add : ImportMap → AutoImport → ImportMap
  | [], a => [(a.name, [a.statement])]
  | (name, statements) :: rest, a =>
    if name.same a.name then (name, extend statements [a.statement]) :: rest
    else (name, statements) :: add rest a

/-- Lists and tables cannot be names. -/
def canName : Value → Bool
  | .list _ | .table _ => false
  | _ => true

def ofEntries (entries : List AutoImport) : Except Failure ImportMap :=
  if entries.all fun a => canName a.name then .ok (entries.foldl add [])
  else .error (.misuse .wrongKind)

def get? (map : ImportMap) (name : String) : Option (List Value) :=
  (map.find? fun e => e.1.same (.text name)).map (·.2)

def has (map : ImportMap) (name : String) : Bool := (map.get? name).isSome

def statements (map : ImportMap) (name : String) : List Value := (map.get? name).getD []

end ImportMap

/-! ## Settings -/

/-- The three switches are used for their truth only. -/
structure Settings where
  enabled : Value := .bool true
  autoImports : List AutoImport := AutoImport.defaults
  alwaysImport : List String := []
  removeUnused : Value := .bool false
  organize : Value := .bool true
  lineLength : Int := 88
  linesAfter : Int := 2
  depthLimit : Nat := 5
  timeout : Value := .float (Binary64.ofInt 30)

namespace Settings

def importMap (s : Settings) : Except Failure ImportMap := ImportMap.ofEntries s.autoImports

def toEntries (s : Settings) : Table :=
  [("enabled", s.enabled), ("auto_imports", .list (s.autoImports.map AutoImport.toValue)),
    ("always_import", .list (s.alwaysImport.map .text)),
    ("remove_unused_imports", s.removeUnused), ("organize_imports", s.organize),
    ("line_length", .int s.lineLength), ("lines_after_imports", .int s.linesAfter),
    ("depth_limit", .int s.depthLimit), ("oracle_timeout", s.timeout)]

end Settings

/-! ## Drafts -/

/-- Settings before they are checked; an entry that is no automatic import is `none`. -/
structure Draft where
  enabled : Value := .bool true
  autoImports : List (Option AutoImport) := AutoImport.defaults.map some
  alwaysImport : List Value := []
  removeUnused : Value := .bool false
  organize : Value := .bool true
  lineLength : Value := .int 88
  linesAfter : Value := .int 2
  depthLimit : Value := .int 5
  timeout : Value := .float (Binary64.ofInt 30)

namespace Draft

def checkAutoImports : List (Option AutoImport) → Except Failure (List AutoImport)
  | [] => .ok []
  | none :: _ => .error SettingsFault.strayAutoImport.failure
  | some a :: rest => (checkAutoImports rest).map (a :: ·)

def checkStatements : List Value → Except Failure (List String)
  | [] => .ok []
  | .text s :: rest =>
    if Text.allBlank s.toList then .error SettingsFault.blankStatement.failure
    else (checkStatements rest).map (s :: ·)
  | _ :: _ => .error SettingsFault.blankStatement.failure

/-- An integer that is at least `low`; a truth value is none. -/
def checkInt (field : String) (low : Int) (fault : SettingsFault) : Value → Except Failure Int
  | .int n => if n < low then .error fault.failure else .ok n
  | _ => .error (SettingsFault.notInteger field).failure

/-- Whether a number is zero or less; other values cannot be compared. -/
def atMostZero? : Value → Option Bool
  | .bool b => some !b
  | .int n => some (n ≤ 0)
  | .float x => some x.atMostZero
  | _ => none

def checkTimeout (v : Value) : Except Failure Value :=
  match atMostZero? v with
  | none => .error (.misuse .wrongKind)
  | some true => .error SettingsFault.timeoutLow.failure
  | some false => .ok v

def settle (d : Draft) : Except Failure Settings := do
  let autoImports ← checkAutoImports d.autoImports
  let alwaysImport ← checkStatements d.alwaysImport
  let lineLength ← checkInt "line_length" 1 .lineLengthLow d.lineLength
  let linesAfter ← checkInt "lines_after_imports" (-1) .linesAfterLow d.linesAfter
  let depthLimit ← checkInt "depth_limit" 0 .depthLimitLow d.depthLimit
  let timeout ← checkTimeout d.timeout
  pure {
    enabled := d.enabled, autoImports := autoImports, alwaysImport := alwaysImport
    removeUnused := d.removeUnused, organize := d.organize, lineLength := lineLength
    linesAfter := linesAfter, depthLimit := depthLimit.toNat, timeout := timeout }

end Draft
end TidyImports
