import TidyImports.Command.Format

/-!
# The command `undefined`

Lists the undefined names of a file or notebook with the statements that each would get.
-/

namespace TidyImports

/-- An undefined name, with its cell in a notebook. -/
structure NameRow where
  cell : Option Int
  name : String
  statements : List Value

def NameRow.toValue (r : NameRow) : Value :=
  .table [("cell", match r.cell with
      | none => .null
      | some i => .int i),
    ("name", .text r.name), ("imports", .list r.statements)]

/-- A text to inspect: its cell, itself and where it stands. -/
abbrev NameUnit := Option Int × Text × UnitContext

namespace Command

variable {ρ : Type} (launch : Launcher (World ρ))

/-- The units of a notebook: the cell that was asked for, or all code cells. -/
def cellUnits (notebook : Notebook) (cell : Option Int) : List NameUnit :=
  let indices : List Int :=
    match cell with
    | some i => [i]
    | none => (notebook.cells.zipIdx.filter fun c => c.1.isCode).map fun c => (c.2 : Int)
  indices.map fun i =>
    let text := if i < 0 then [] else ((notebook.cells[i.toNat]?).map (·.text)).getD []
    (some i, text, ⟨some notebook.cells, some i⟩)

def nameRows (linter : Linter (World ρ)) (map : ImportMap) :
    List NameUnit → Run (World ρ) (List NameRow)
  | [] => pure []
  | (cell, text, context) :: rest => do
    let names ← undefinedNames linter (masked text) context
    let rows ← nameRows linter map rest
    pure (names.map (fun name => ⟨cell, name, map.statements name⟩) ++ rows)

/-- All rows of a file. -/
def inspect (w : World ρ) (settings : Settings) (name : PathName) (cell : Option Int) :
    Run (World ρ) (List NameRow) := do
  let map ← Run.ofExcept settings.importMap
  if isNotebook name then
    let notebook ← Run.ofExcept (Notebook.load w.disk name w.guard)
    nameRows (linterFor launch settings cellName) map (cellUnits notebook cell)
  else
    let (text, _) ← Run.ofExcept (readSource w.disk name w.guard)
    nameRows (linterFor launch settings name.name) map [(none, text, .standalone)]

/-- The table of the rows. -/
def nameGrid (path : String) (inNotebook : Bool) (rows : List NameRow) : Grid :=
  let statements := fun (r : NameRow) =>
    if r.statements.isEmpty then "[dim]no auto-import configured[/dim]".toList
    else Text.joinWith ['\n'] (r.statements.map fun s => s.display.toList)
  let cell := fun (r : NameRow) => if inNotebook then [(cellIndexText r.cell).toList] else []
  { title := ("Undefined names in " ++ path).toList
    columns := (if inNotebook then [⟨"Cell".toList, .right⟩] else []) ++
      [⟨"Name".toList, .left⟩, ⟨"Import".toList, .left⟩]
    rows := rows.map fun r => cell r ++ [r.name.toList, statements r] }

def undefined (o : UndefinedOptions) : Command ρ Unit := do
  let start := (← world).disk.currentName
  let settings ← settings [] start
  let name ← resolve o.path
  requireInput "File" name
  if o.cell.isSome && !isNotebook name then
    complain o.verbose "--cell can only be used with notebooks"
    stop 1
  let w ← world
  match ← attempt (inspect launch w settings name o.cell) with
  | .error failure =>
    if failure.reportable then
      complain o.verbose failure.describe
      stop failure.exitCode
    else throw (.crash failure)
  | .ok rows =>
    if o.json then
      writeJson (.table [("path", .text o.path), ("undefined", .list (rows.map NameRow.toValue))])
    else if rows.isEmpty then succeed "No undefined names found"
    else write (← ofExcept ((nameGrid o.path (isNotebook name) rows).render lineWidth))

end Command
end TidyImports
