import TidyImports.Text.Printable

/-!
# Magic lines

A notebook cell may hold lines that are no Python but commands of the notebook; they begin with a
percent sign. `mask` turns each of them into a comment of the same length and remembers what it
was; `unmask` looks every line of a text up by its content and restores what was remembered. A
masked line that was moved is still restored, one that was changed stays a comment.
-/

namespace TidyImports

/-- What masked lines were before, in the order in which they were first recorded. -/
structure MaskMap where
  lines : List (Text × Text)
  deriving DecidableEq, Repr

namespace MaskMap

def empty : MaskMap := ⟨[]⟩

/-- Sets a key of a list of pairs; one that is present keeps its place. -/
def put : List (Text × Text) → Text → Text → List (Text × Text)
  | [], masked, source => [(masked, source)]
  | (m, o) :: rest, masked, source =>
    if m = masked then (m, source) :: rest else (m, o) :: put rest masked source

def record (map : MaskMap) (masked source : Text) : MaskMap := ⟨put map.lines masked source⟩

def unmasked? (map : MaskMap) (line : Text) : Option Text := map.lines.lookup line

def has (map : MaskMap) (line : Text) : Bool := (map.unmasked? line).isSome

def keys (map : MaskMap) : List Text := map.lines.map (·.1)

def size (map : MaskMap) : Nat := map.lines.length

def isEmpty (map : MaskMap) : Bool := map.lines.isEmpty

def literal (map : MaskMap) : Text :=
  let entry := fun (m, o) => Text.quoted m ++ [':', ' '] ++ Text.quoted o
  "MaskMap(\x7b".toList ++ Text.joinWith [',', ' '] (map.lines.map entry) ++ "\x7d)".toList

end MaskMap

/-! ## Masking -/

def maskLine : Text → Text
  | '%' :: rest => '#' :: rest
  | line => line

def isMagic (line : Text) : Bool := line.head? == some '%'

def maskLines (map : MaskMap) : List Text → MaskMap × List Text
  | [] => (map, [])
  | l :: rest =>
    let map := if isMagic l then map.record (maskLine l) l else map
    let (map, masked) := maskLines map rest
    (map, maskLine l :: masked)

def mask (text : Text) : MaskMap × Text :=
  let (map, masked) := maskLines .empty text.lines
  (map, Text.unlines masked)

/-- The masked text alone. -/
def masked (text : Text) : Text := (mask text).2

/-! ## Restoring -/

/-- The line that was masked, when there was one and it was not empty. -/
def unmaskLine (map : MaskMap) (line : Text) : Text :=
  match map.unmasked? line with
  | none | some [] => line
  | some source => source

def unmask (map : MaskMap) (text : Text) : Text :=
  if map.isEmpty then text else Text.unlines (text.lines.map (unmaskLine map))

end TidyImports
