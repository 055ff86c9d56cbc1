import TidyImports.Disk.PathName
import TidyImports.Failure

/-!
# A disk

Files and folders by their absolute places, and the folder that relative names start from.
`Disk.read` and `Disk.write` fail where a name leads to no file and where the system does not open
the file: names and kinds are the disk's, and a `Guard` tells whatever else keeps files from being
opened. Folders can always be searched, and a file that was opened is read and written as a whole;
a disk that runs full halfway is left out. `Disk.find?` asks only what stands at a name, so that a
name which leads nowhere is no failure; `Disk.remove` deletes a folder with all that it holds.
-/

namespace TidyImports

/-- The names from the root of the disk on. -/
abbrev Place := List String

inductive Node where
  | file (bytes : Utf8.Bytes)
  | folder
  deriving DecidableEq

structure Disk where
  entries : List (Place × Node)
  /-- The folder that relative names start from. -/
  current : Place

/-- Why the system does not open a file for reading or for writing, if it does not. -/
structure Access where
  reading : Option OpenRefusal := none
  writing : Option OpenRefusal := none
  deriving DecidableEq, Repr

/-- What keeps the files at their places from being opened. -/
abbrev Guard := Place → Access

/-- Every file is opened. -/
def Guard.none : Guard := fun _ => {}

namespace Disk

/-! ## Looking -/

def node? (disk : Disk) (place : Place) : Option Node :=
  if place.isEmpty then some .folder else disk.entries.lookup place

def currentName (disk : Disk) : PathName := ⟨"/", disk.current⟩

/-- The absolute name without double dots; it takes a folder to start from, also for a name that
does not start there. -/
def resolve (disk : Disk) (p : PathName) : Except Failure PathName :=
  if disk.node? disk.current ≠ some .folder then
    .error (.lookup .missing disk.currentName.toString)
  else if p.hasNull then .error (.invalid .nullByte)
  else .ok (PathName.resolve disk.currentName p)

/-- The place that parts lead to; each but the last must be a folder. -/
def walk (disk : Disk) (place : Place) : List String → Except FileCause Place
  | [] => .ok place
  | part :: rest =>
    if part = ".." then walk disk place.dropLast rest
    else if PathName.partTooLong part then .error .nameTooLong
    else
      match disk.node? (place ++ [part]) with
      | none => .error .missing
      | some .folder => walk disk (place ++ [part]) rest
      | some (.file _) => if rest.isEmpty then .ok (place ++ [part]) else .error .notDirectory

def start (disk : Disk) (p : PathName) : Place := if p.absolute then [] else disk.current

def locate (disk : Disk) (p : PathName) : Except FileFault Place :=
  if p.hasNull then .error .nullByte
  else if p.tooLong then .error (.open .nameTooLong p.toString)
  else (disk.walk (disk.start p) p.parts).mapError fun cause => .open cause p.toString

/-- What stands at a name, if anything; only a name that is too long cannot be looked up. -/
def find? (disk : Disk) (p : PathName) : Except Failure (Option Node) :=
  match disk.locate p with
  | .ok place => .ok (disk.node? place)
  | .error (.open .nameTooLong path) => .error (.lookup .nameTooLong path)
  | .error _ => .ok none

/-! ## Reading and writing -/

def read (disk : Disk) (p : PathName) (guard : Guard := Guard.none) :
    Except FileFault Utf8.Bytes := do
  let place ← disk.locate p
  match disk.node? place with
  | some (.file bytes) =>
    match (guard place).reading with
    | none => .ok bytes
    | some refusal => .error (.refused refusal p.toString)
  | some .folder => .error (.open .isDirectory p.toString)
  | none => .error (.open .missing p.toString)

def setEntry : List (Place × Node) → Place → Node → List (Place × Node)
  | [], place, node => [(place, node)]
  | (p, n) :: rest, place, node =>
    if p = place then (p, node) :: rest else (p, n) :: setEntry rest place node

def put (disk : Disk) (place : Place) (node : Node) : Disk :=
  { disk with entries := setEntry disk.entries place node }

/-- The place that a new or old file of that name has: a missing last part makes a new one. -/
def target (disk : Disk) (p : PathName) : Except FileFault Place :=
  match disk.locate p, p.parts.getLast? with
  | .error (.open .missing path), some last =>
    match disk.walk (disk.start p) p.parts.dropLast with
    | .ok folder => .ok (folder ++ [last])
    | .error cause => .error (.open cause path)
  | place, _ => place

/-- Replaces or creates a file. -/
def write (disk : Disk) (p : PathName) (bytes : Utf8.Bytes) (guard : Guard := Guard.none) :
    Except FileFault Disk := do
  let place ← disk.target p
  match disk.node? place with
  | some .folder => .error (.open .isDirectory p.toString)
  | _ =>
    match (guard place).writing with
    | none => .ok (disk.put place (.file bytes))
    | some refusal => .error (.refused refusal p.toString)

/-! ## Setting up -/

/-- Adds an entry with the folders above it. -/
def add (disk : Disk) (place : Place) (node : Node) : Disk :=
  let folders := (List.range (place.length - 1)).map fun i => place.take (i + 1)
  (folders.foldl (fun d p => if (d.node? p).isSome then d else d.put p .folder) disk).put place node

def startsPlace : (front place : Place) → Bool
  | [], _ => true
  | _ :: _, [] => false
  | a :: front, b :: place => a == b && startsPlace front place

/-- Deletes a place and all below it. -/
def remove (disk : Disk) (place : Place) : Disk :=
  { disk with entries := disk.entries.filter fun e => !startsPlace place e.1 }

/-! ## Searching upward -/

/-- The folders of a place, itself first, the root last. -/
def upward : Place → List Place
  | [] => [[]]
  | part :: rest => (upward rest).map (part :: ·) ++ [[]]

/-- The file of that name in the first folder that has one. -/
def findIn (disk : Disk) (filename : PathName) : List Place → Except Failure (Option PathName)
  | [] => .ok none
  | folder :: rest => do
    let candidate := PathName.below ⟨"/", folder⟩ filename
    match ← disk.find? candidate with
    | some (.file _) => .ok (some candidate)
    | _ => findIn disk filename rest

/-- The file of that name in the nearest folder above a starting point that has one. -/
def findUpward (disk : Disk) (filename : PathName) (start : PathName) :
    Except Failure (Option PathName) := do
  let place ← disk.resolve start
  disk.findIn filename (upward place.parts)

end Disk
end TidyImports
