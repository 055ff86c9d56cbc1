import TidyImports.Data.Json.Writer
import TidyImports.Disk.Source

/-!
# Notebooks

A notebook is a JSON object whose `cells` are read and whose rest is carried along. Its cells are
held twice: as texts to work on, and in the object that is written back; `Notebook.setText` changes
both, and the source that it writes is a list of lines with their ends.
-/

namespace TidyImports

structure Cell where
  kind : String
  text : Text
  deriving DecidableEq, Repr

def Cell.isCode (c : Cell) : Bool := c.kind == "code"

structure Notebook where
  data : Table
  cells : List Cell

namespace Notebook

/-! ## Reading -/

/-- The kind of a value as a message names it. -/
def kindName : Value → String
  | .null => "NoneType"
  | .bool _ => "bool"
  | .int _ => "int"
  | .float _ => "float"
  | .text _ => "str"
  | .list _ => "list"
  | .table _ => "dict"
  | .moment _ => "datetime"

def joinTexts : List Value → Except Failure Text
  | [] => .ok []
  | .text s :: rest => (joinTexts rest).map (s.toList ++ ·)
  | _ :: _ => .error (.misuse .wrongKind)

/-- The source of a cell, a text or a list of texts. -/
def sourceText : Value → Except Failure Text
  | .text s => .ok s.toList
  | .list pieces => joinTexts pieces
  | v => .error (.notebook (.source (kindName v)))

/-- A cell without a kind is code, one without a source is empty. -/
def cellOf : Value → Except Failure Cell
  | .table t => do
    let kind := ((Table.get? t "cell_type").getD (.text "code")).display
    let text ← sourceText ((Table.get? t "source").getD (.text ""))
    pure ⟨kind, text⟩
  | _ => .error (.misuse .notTable)

def cellsOf : List Value → Except Failure (List Cell)
  | [] => .ok []
  | v :: rest => do
    let c ← cellOf v
    let cs ← cellsOf rest
    pure (c :: cs)

/-- The notebook of a text; the path stands in messages only. -/
def ofText (content : Text) (path : Option String) : Except Failure Notebook :=
  match Json.parse content with
  | .error (.tooLong n) => .error (.invalid (.numeral (.tooLong n)))
  | .error fault => .error (.notebook (.malformed path fault))
  | .ok (.table data) =>
    match Table.get? data "cells" with
    | some (.list raw) => (cellsOf raw).map fun cells => ⟨data, cells⟩
    | _ => .error (.notebook .noCells)
  | .ok _ => .error (.notebook .notObject)

def load (disk : Disk) (p : PathName) (guard : Guard := Guard.none) : Except Failure Notebook :=
  match disk.readText p guard with
  | .ok content => ofText content (some p.toString)
  | .error fault => .error (fault.failure fun f => .notebook (.read p.toString f))

/-! ## Changing and writing -/

/-- The place of a cell; a negative index counts from the end. -/
def place? (notebook : Notebook) (index : Int) : Option Nat :=
  let count : Int := notebook.cells.length
  let i := if index < 0 then index + count else index
  if 0 ≤ i ∧ i < count then some i.toNat else none

def sourceLines (text : Text) : Value :=
  .list ((Text.cut text).map fun line => .text (String.ofList line))

def withSource (text : Text) : Value → Value
  | .table t => .table (Table.put t "source" (sourceLines text))
  | v => v

/-- Changes one item of a list. -/
def changeAt (f : Value → Value) (i : Nat) (items : List Value) : List Value := items.modify i f

def setCells (data : Table) (i : Nat) (text : Text) : Table :=
  match Table.get? data "cells" with
  | some (.list raw) => Table.put data "cells" (.list (changeAt (withSource text) i raw))
  | _ => data

def setText (notebook : Notebook) (i : Nat) (text : Text) : Notebook :=
  ⟨setCells notebook.data i text, notebook.cells.modify i fun c => { c with text := text }⟩

def toText (notebook : Notebook) : Text :=
  Json.write (.indented 1) 0 (.table notebook.data) ++ ['\n']

end Notebook
end TidyImports
