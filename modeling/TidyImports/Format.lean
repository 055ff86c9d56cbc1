import TidyImports.Context
import TidyImports.Converge
import TidyImports.Settings.Sources

/-!
# Formatting

`formatDocument` fixes the imports of one text: it masks magic lines, works out the missing imports,
chooses the passes that the settings and the place of the text allow, runs them until nothing
changes, and returns the new text with edits that lead to it from the old one. `formatCell` and
`formatNotebook` do so for the cells of a notebook.
-/

namespace TidyImports

/-- What became of a text. The edits are those of a single batch, or one edit of the whole text. -/
structure FormatResult where
  before : Text
  text : Text
  edits : Batch := []
  batches : List Batch := []
  whole : Bool := false
  imports : List Value := []
  rounds : Nat := 0

namespace FormatResult

def changed (r : FormatResult) : Bool := r.text != r.before

def unchanged (text : Text) : FormatResult := { before := text, text := text }

end FormatResult

/-! ## Choosing -/

/-- How a text is to be formatted; a narrow format only adds imports. -/
structure Request where
  full : Bool := true
  filename : Option String := none
  context : UnitContext := {}

namespace Request

def isPackageInit (request : Request) : Bool :=
  match request.filename with
  | none => false
  | some name => (PathName.ofString name).isPackageInit

/-- The name in messages; an empty one counts as missing. -/
def shownName (request : Request) : Option String := request.filename.filter fun s => !s.isEmpty

end Request

/-- The statements to ensure: those of the missing names, and in a file that is not a package's
own the ones that every file gets. -/
def requiredImports (settings : Settings) (request : Request) (effective : List Value) :
    List Value :=
  if request.context.isCell || request.isPackageInit then effective
  else extend effective (settings.alwaysImport.map .text)

/-- The passes of a request, in order. -/
def passes (settings : Settings) (request : Request) (imports : List Value) : List Config :=
  let linesAfter := Value.int settings.linesAfter
  let tidy := request.full && !request.isPackageInit
  (if imports.isEmpty then [] else [Config.addImports imports linesAfter]) ++
  (if tidy && settings.removeUnused.truthy && !request.context.isCell then
    [Config.removeUnused (settings.alwaysImport.map .text)] else []) ++
  (if tidy && settings.organize.truthy then
    [Config.organizeImports (.int settings.lineLength) linesAfter] else [])

/-! ## Formatting a text -/

/-- The result of a run on the masked text, with edits for the text as it was. -/
def resultOf (text : Text) (map : MaskMap) (imports : List Value) (c : Converged) :
    FormatResult :=
  let final := unmask map c.text
  let result : FormatResult :=
    { before := text, text := final, batches := c.batches, imports := imports, rounds := c.rounds }
  if !result.changed then result
  else
    match c.batches, map.isEmpty with
    | [batch], true => { result with edits := batch }
    | _, _ => { result with edits := [⟨documentRange text, final⟩], whole := true }

section

variable {σ : Type} (linter : Linter σ) (snapshot : Snapshot)

def formatDocument (text : Text) (request : Request) : Run σ FormatResult := do
  let settings := snapshot.settings
  if !settings.enabled.truthy then Run.fail .disabled
  else
    let (map, masked) := mask text
    let effective ← effectiveImports linter snapshot.imports masked request.context
    let imports := requiredImports settings request effective
    match passes settings request imports with
    | [] => do
      Run.notify (.nothingToDo request.shownName)
      pure (.unchanged text)
    | configs => do
      let converged ← converge linter settings.depthLimit masked configs
      pure (resultOf text map imports converged)

/-! ## Formatting notebooks -/

/-- Formats one cell; a cell that is not code is left alone. -/
def formatCell (notebook : Notebook) (index : Int) (full : Bool) :
    Run σ (Notebook × FormatResult) := do
  let context : UnitContext := ⟨some notebook.cells, some index⟩
  let (cells, i) ← Run.ofExcept context.check
  match cells[i.toNat]? with
  | none => Run.fail (.context (.outside (some i) cells.length))
  | some cell =>
    if !cell.isCode then pure (notebook, .unchanged cell.text)
    else
      let result ← formatDocument linter snapshot cell.text ⟨full, none, context⟩
      pure (if result.changed then notebook.setText i.toNat result.text else notebook, result)

/-- What a run over cells has reached, which a failure in a later cell does not undo. -/
structure CellRun where
  notebook : Notebook
  results : List FormatResult
  failure : Option Failure

/-- Formats the cells at some indices one after the other, up to the first failure. -/
def formatCells (full : Bool) (notebook : Notebook) :
    List Nat → StateM (Session σ) CellRun
  | [] => pure ⟨notebook, [], none⟩
  | i :: rest => do
    match ← (formatCell linter snapshot notebook i full).run with
    | .error failure => pure ⟨notebook, [], some failure⟩
    | .ok (notebook, result) =>
      let run ← formatCells full notebook rest
      pure { run with results := result :: run.results }

/-- Formats every cell in order, each seeing the cells before it. -/
def formatNotebook (full : Bool) (notebook : Notebook) : StateM (Session σ) CellRun :=
  formatCells linter snapshot full notebook (List.range notebook.cells.length)

end

end TidyImports
