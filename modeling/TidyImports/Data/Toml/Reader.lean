import TidyImports.Data.Toml.Scalar

/-!
# TOML documents read

`Toml.parse` reads a document into a table. Which table a line may still extend is decided by marks
on dotted keys: a table that a header or a dotted key has named is not opened by a header again,
and nothing is added below an array or a table that was written as a value. Values nest to any
depth; running out of stack on deeply nested ones is left out.
-/

namespace TidyImports.Toml

abbrev Path := List String

/-! ## Marks -/

inductive Mark where
  /-- The table of this key was named; no header may name it again. -/
  | named (path : Path)
  /-- The value of this key was written out; nothing below it may change. -/
  | closed (path : Path)
  deriving DecidableEq, Repr

def Mark.path : Mark → Path
  | .named path | .closed path => path

def startsPath : (front path : Path) → Bool
  | [], _ => true
  | _ :: _, [] => false
  | a :: front, b :: path => a == b && startsPath front path

def isNamed (marks : List Mark) (path : Path) : Bool := marks.contains (.named path)

def isClosed (marks : List Mark) (path : Path) : Bool :=
  marks.any fun
    | .closed front => startsPath front path
    | .named _ => false

/-- Forgets the marks on a key and on everything below it. -/
def release (marks : List Mark) (path : Path) : List Mark :=
  marks.filter fun m => !startsPath path m.path

def closeIfNested (marks : List Mark) (path : Path) : Value → List Mark
  | .list _ | .table _ => .closed path :: marks
  | _ => marks

/-! ## Changing a table within tables -/

/-- Changes the table at a path, creating the tables on the way. `lists` says whether the path goes
through a list to its last table. -/
def within (lists : Bool) (change : Table → Option Table) : Path → Table → Option Table
  | [], t => change t
  | key :: path, t =>
    match t.get? key with
    | none => (within lists change path []).map fun u => t.put key (.table u)
    | some (.table u) => (within lists change path u).map fun u => t.put key (.table u)
    | some (.list items) =>
      if !lists then none
      else
        match items.getLast? with
        | some (.table u) =>
          (within lists change path u).map fun u => t.put key (.list (items.dropLast ++ [.table u]))
        | _ => none
    | some _ => none

/-- Sets a key that is not set yet. -/
def addNew (key : String) (v : Value) (t : Table) : Option Table :=
  if t.has key then none else some (t.put key v)

/-- Adds an empty table to the list of a key. -/
def addTable (key : String) (t : Table) : Option Table :=
  match t.get? key with
  | none => some (t.put key (.list [.table []]))
  | some (.list items) => some (t.put key (.list (items ++ [.table []])))
  | some _ => none

def orMalformed {α : Type} : Option α → Except Fault α
  | some a => .ok a
  | none => .error .malformed

/-- The parts of a key before its last one, and the last one. -/
def parent (path : Path) : Path := path.dropLast

def stem (path : Path) : String := path.getLast?.getD ""

/-! ## Values -/

mutual

/-- A value. Every character read takes at most two units of fuel: one for a value that begins with
it and one for an item or entry. -/
def readValue : (fuel : Nat) → Text → Except Fault (Value × Text)
  | 0, _ => .error .malformed
  | fuel + 1, text =>
    match text with
    | '[' :: rest => do
      match ← skipTrivia false rest with
      | ']' :: rest => pure (.list [], rest)
      | rest =>
        let (vs, rest) ← readItems fuel rest
        pure (.list vs, rest)
    | '{' :: rest =>
      match skipWhite rest with
      | '}' :: rest => .ok (.table [], rest)
      | rest => (readInline fuel [] [] rest).map fun (t, r) => (.table t, r)
    | '"' :: _ | '\'' :: _ => (readText text).map fun (s, r) => (.text s, r)
    | text => readPlain text

/-- One or more items up to the closing bracket; a comma may follow the last one. -/
def readItems : (fuel : Nat) → Text → Except Fault (List Value × Text)
  | 0, _ => .error .malformed
  | fuel + 1, text => do
    let (v, rest) ← readValue fuel text
    match ← skipTrivia false rest with
    | ']' :: rest => pure ([v], rest)
    | ',' :: rest =>
      match ← skipTrivia false rest with
      | ']' :: rest => pure ([v], rest)
      | rest =>
        let (vs, rest) ← readItems fuel rest
        pure (v :: vs, rest)
    | _ => .error .malformed

/-- One or more entries up to the closing brace, added to those before them. -/
def readInline : (fuel : Nat) → (marks : List Mark) → (before : Table) → Text →
    Except Fault (Table × Text)
  | 0, _, _, _ => .error .malformed
  | fuel + 1, marks, before, text => do
    let (key, rest) ← readKey text.length text
    match rest with
    | '=' :: rest =>
      let (v, rest) ← readValue fuel (skipWhite rest)
      if isClosed marks key then .error .malformed
      else
        let entries ← orMalformed (within false (addNew (stem key) v) (parent key) before)
        match skipWhite rest with
        | '}' :: rest => pure (entries, rest)
        | ',' :: rest => readInline fuel (closeIfNested marks key v) entries (skipWhite rest)
        | _ => .error .malformed
    | _ => .error .malformed

end

/-! ## Documents -/

/-- What the lines read so far have built: the root table, the marks, the keys that the next header
marks as named, and the key of the header that lines stand under. -/
structure Document where
  root : Table
  marks : List Mark
  pending : List Path
  header : Path

def Document.empty : Document := ⟨[], [], [], []⟩

/-- A header ends the section before it. -/
def Document.settle (d : Document) : Document :=
  { d with marks := d.pending.map .named ++ d.marks, pending := [] }

def Document.openTable (d : Document) (path : Path) : Except Fault Document :=
  if isNamed d.marks path || isClosed d.marks path then .error .malformed
  else do
    let root ← orMalformed (within true some path d.root)
    pure { d with root := root, marks := .named path :: d.marks, header := path }

def Document.openItem (d : Document) (path : Path) : Except Fault Document :=
  if isClosed d.marks path then .error .malformed
  else do
    let root ← orMalformed (within true (addTable (stem path)) (parent path) d.root)
    pure { d with root := root, marks := .named path :: release d.marks path, header := path }

/-- The proper beginnings of a dotted key, below the header. -/
def Document.containers (d : Document) (key : Path) : List Path :=
  (List.range (key.length - 1)).map fun i => d.header ++ key.take (i + 1)

def Document.set (d : Document) (key : Path) (v : Value) : Except Fault Document :=
  let containers := d.containers key
  let above := d.header ++ parent key
  if containers.any (isNamed d.marks) || (!above.isEmpty && isClosed d.marks above) then
    .error .malformed
  else do
    let root ← orMalformed (within true (addNew (stem key) v) above d.root)
    pure { d with
      root := root
      marks := closeIfNested d.marks (d.header ++ key) v
      pending := containers ++ d.pending }

/-- The closing of a header. -/
def closeHeader (doubled : Bool) : Text → Except Fault Text
  | ']' :: rest =>
    if !doubled then .ok rest
    else
      match rest with
      | ']' :: rest => .ok rest
      | _ => .error .malformed
  | _ => .error .malformed

/-- A header or an entry, without the rest of its line. -/
def readStatement (d : Document) (text : Text) : Except Fault (Document × Text) :=
  match text with
  | '[' :: '[' :: rest => do
    let rest := skipWhite rest
    let (path, rest) ← readKey rest.length rest
    let d ← d.settle.openItem path
    pure (d, ← closeHeader true rest)
  | '[' :: rest => do
    let rest := skipWhite rest
    let (path, rest) ← readKey rest.length rest
    let d ← d.settle.openTable path
    pure (d, ← closeHeader false rest)
  | '#' :: _ => pure (d, text)
  | text => do
    let (key, rest) ← readKey text.length text
    match rest with
    | '=' :: rest =>
      let (v, rest) ← readValue (2 * rest.length + 2) (skipWhite rest)
      let d ← d.set key v
      pure (d, rest)
    | _ => .error .malformed

/-- The lines of a document. The fuel bounds their count. -/
def readLines : (fuel : Nat) → Document → Text → Except Fault Document
  | 0, _, _ => .error .malformed
  | fuel + 1, d, text =>
    match skipWhite text with
    | [] => .ok d
    | '\n' :: rest => readLines fuel d rest
    | text => do
      let (d, rest) ← readStatement d text
      match ← skipComment (skipWhite rest) with
      | [] => pure d
      | '\n' :: rest => readLines fuel d rest
      | _ => .error .malformed

/-- Line feeds for the pairs of carriage return and line feed. -/
def joinBreaks : Text → Text
  | '\r' :: '\n' :: rest => '\n' :: joinBreaks rest
  | c :: rest => c :: joinBreaks rest
  | [] => []

def parse (text : Text) : Except Fault Table :=
  let text := joinBreaks text
  (readLines (text.length + 1) .empty text).map (·.root)

end TidyImports.Toml
