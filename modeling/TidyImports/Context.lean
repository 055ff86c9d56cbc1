import TidyImports.Linter.Launch
import TidyImports.Mask
import TidyImports.Notebook
import TidyImports.Settings.Basic

/-!
# Undefined names

Which undefined names of a unit should get an import. For a file these are all that have a
configured statement. For a notebook cell a name counts only if it is undefined both in the cell
alone and in the code cells up to it, one after the other.
-/

namespace TidyImports

/-! ## Names in messages -/

def nameMark : Text := "Undefined name `".toList

/-- The name that a message speaks of: not empty, and between backticks. -/
def nameIn? (message : Text) : Option String :=
  match Text.dropStart? nameMark message with
  | none => none
  | some rest =>
    match rest.span (· ≠ '`') with
    | (c :: name, '`' :: _) => some (String.ofList (c :: name))
    | _ => none

/-- Diagnostics without a code count, since syntax errors have none. -/
def Diagnostic.concernsNames (d : Diagnostic) : Bool :=
  match d.code with
  | .null => true
  | .text s => s == Config.undefinedRule
  | _ => false

def Diagnostic.isUndefined (d : Diagnostic) : Bool :=
  match d.code with
  | .text s => s == Config.undefinedRule
  | _ => false

/-- Adds the names of diagnostics to those before them, each once. -/
def collectNames {σ : Type} (names : List String) : List Diagnostic → Run σ (List String)
  | [] => pure names
  | d :: rest =>
    if !d.concernsNames then collectNames names rest
    else
      match d.message with
      | .text message =>
        match nameIn? message.toList with
        | some name => collectNames (if name ∈ names then names else names ++ [name]) rest
        | none => do
          if d.isUndefined then Run.notify (.undetermined message)
          collectNames names rest
      | _ => Run.fail (.misuse .wrongKind)

/-- The undefined names of a text in the order of their first report. -/
def undefinedSymbols {σ : Type} (linter : Linter σ) (text : Text) : Run σ (List String) := do
  collectNames [] (← linter text Config.undefinedNames)

/-! ## Statements -/

def dedup : List String → List String
  | [] => []
  | s :: rest => s :: (dedup rest).filter (· ≠ s)

def sortNames (names : List String) : List String :=
  (dedup names).mergeSort fun a b => decide (a ≤ b)

/-- The statements of names: the names in order, the statements of each as declared, none twice. -/
def importsFor (names : List String) (map : ImportMap) : List Value :=
  extend [] ((sortNames names).flatMap map.statements)

/-! ## Units -/

/-- Where a text stands: in a cell of a notebook, or by itself when there is no index. -/
structure UnitContext where
  cells : Option (List Cell) := none
  index : Option Int := none

namespace UnitContext

def standalone : UnitContext := {}

def isCell (context : UnitContext) : Bool := context.index.isSome

/-- The cells and the place of a cell that its notebook holds. -/
def check (context : UnitContext) : Except Failure (List Cell × Int) :=
  match context.cells with
  | none => .error (.context (.noNotebook context.index))
  | some cells =>
    match context.index with
    | none => .error (.context (.outside none cells.length))
    | some i =>
      if 0 ≤ i ∧ i < cells.length then .ok (cells, i)
      else .error (.context (.outside (some i) cells.length))

end UnitContext

/-- How many cells come before and at an index; a negative one counts from the end. -/
def countThrough (count : Nat) (index : Int) : Nat :=
  let stop := index + 1
  if stop < 0 then (stop + count).toNat else stop.toNat

/-- The texts of cells numbered from `n` on: `text` for the cell at the index, and the masked
texts of the other code cells. -/
def cellTexts (index : Int) (text : Text) (n : Int) : List Cell → List Text
  | [] => []
  | c :: rest =>
    if n = index then text :: cellTexts index text (n + 1) rest
    else if c.isCode then masked c.text :: cellTexts index text (n + 1) rest
    else cellTexts index text (n + 1) rest

/-- The code cells up to an index, with `text` for the cell there. -/
def cellsThrough (cells : List Cell) (index : Int) (text : Text) : Text :=
  Text.unlines (cellTexts index text 0 (cells.take (countThrough cells.length index)))

/-! ## Names that need an import -/

section

variable {σ : Type} (linter : Linter σ) (map : ImportMap)

/-- The undefined names of a text that have a statement. -/
def resolvable (text : Text) : Run σ (List String) := do
  let names ← undefinedSymbols linter text
  pure (names.filter map.has)

/-- The names to import for a unit whose text is masked. -/
def effectiveSymbols (text : Text) (context : UnitContext) : Run σ (List String) := do
  if !context.isCell then resolvable linter map text
  else
    let (cells, index) ← Run.ofExcept context.check
    let alone ← resolvable linter map text
    if alone.isEmpty then pure alone
    else
      let inOrder ← resolvable linter map (cellsThrough cells index text)
      Run.notify (.compared index alone inOrder)
      pure (alone.filter (· ∈ inOrder))

/-- All undefined names of a unit, with a statement or without. -/
def undefinedNames (text : Text) (context : UnitContext) : Run σ (List String) := do
  if !context.isCell then undefinedSymbols linter text
  else
    let (cells, index) ← Run.ofExcept context.check
    let alone ← undefinedSymbols linter text
    if alone.isEmpty then pure alone
    else
      let inOrder ← undefinedSymbols linter (cellsThrough cells index text)
      pure (alone.filter (· ∈ inOrder))

/-- The statements to import for a unit. -/
def effectiveImports (text : Text) (context : UnitContext) : Run σ (List Value) := do
  let names ← effectiveSymbols linter map text context
  pure (importsFor names map)

end

end TidyImports
