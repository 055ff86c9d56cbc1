import TidyImports.Text.Basic

/-!
# Path names

A path name is a root and the parts below it; empty parts and single dots are no parts. Nothing
here looks at a disk: `PathName.resolve` removes double dots by name alone. `PathName.hasNull` and
the two limits on lengths tell the names that no disk can hold.
-/

namespace TidyImports

/-- The root is empty for a relative name, and otherwise one slash or exactly two. -/
structure PathName where
  root : String
  parts : List String
  deriving DecidableEq, Repr

namespace PathName

def rootOf : Text → String
  | '/' :: '/' :: '/' :: _ => "/"
  | '/' :: '/' :: _ => "//"
  | '/' :: _ => "/"
  | _ => ""

def partsOf (text : Text) : List String :=
  ((Text.splitAt '/' text).filter fun p => p ≠ [] && p ≠ ['.']).map String.ofList

def ofString (s : String) : PathName := ⟨rootOf s.toList, partsOf s.toList⟩

def toString (p : PathName) : String :=
  if p.root.isEmpty && p.parts.isEmpty then "."
  else p.root ++ "/".intercalate p.parts

def absolute (p : PathName) : Bool := !p.root.isEmpty

/-- The last part, empty without one. -/
def name (p : PathName) : String := p.parts.getLast?.getD ""

/-- The last dot of a name and what follows it, when something stands on both its sides. -/
def suffixOf (name : Text) : Text :=
  let last := (name.reverse.takeWhile (· ≠ '.')).reverse
  let front := name.take (name.length - last.length)
  if last.isEmpty || front.length ≤ 1 then [] else '.' :: last

def suffix (p : PathName) : String := String.ofList (suffixOf p.name.toList)

/-- The name `p` as seen from `base`. -/
def below (base p : PathName) : PathName :=
  if p.absolute then p else ⟨base.root, base.parts ++ p.parts⟩

/-- The parts that remain when each double dot takes the part before it away. -/
def collapse (done : List String) : List String → List String
  | [] => done
  | part :: rest => collapse (if part = ".." then done.dropLast else done ++ [part]) rest

/-- The absolute name without double dots. -/
def resolve (base p : PathName) : PathName := ⟨"/", collapse [] (below base p).parts⟩

/-- The file of a package itself. -/
def isPackageInit (p : PathName) : Bool := p.name == "__init__.py"

/-! ## Names that no disk can hold -/

/-- The most bytes that one part may take. -/
def partLimit : Nat := 255

/-- The most bytes that a whole name may take. -/
def nameLimit : Nat := 4095

def partTooLong (part : String) : Bool := partLimit < part.utf8ByteSize

def tooLong (p : PathName) : Bool := nameLimit < p.toString.utf8ByteSize

def hasNull (p : PathName) : Bool := p.parts.any fun part => part.toList.contains '\x00'

end PathName
end TidyImports
