import TidyImports.Diff.Match

/-!
# Unified diffs

`Diff.script` turns the common blocks of two lists of lines into steps, `Diff.hunks` groups the
steps with three lines of context around each change, and `unifiedDiff` writes the hunks. The lines
of a text end at every boundary of prose and are written as they are, with a mark before each.
-/

namespace TidyImports.Diff

/-! ## Scripts -/

inductive Kind where
  | equal
  | replace
  | delete
  | insert
  deriving DecidableEq, Repr

/-- What becomes of the lines from `left` to before `leftStop`: the lines from `right` to before
`rightStop`. -/
structure Step where
  kind : Kind
  left : Nat
  leftStop : Nat
  right : Nat
  rightStop : Nat
  deriving DecidableEq, Repr

/-- The change of a stretch between two blocks, if there is one. -/
def change (left leftStop right rightStop : Nat) : List Step :=
  if left < leftStop && right < rightStop then [⟨.replace, left, leftStop, right, rightStop⟩]
  else if left < leftStop then [⟨.delete, left, leftStop, right, rightStop⟩]
  else if right < rightStop then [⟨.insert, left, leftStop, right, rightStop⟩]
  else []

/-- The steps from two places on to the ends of the lists. -/
def stepsFrom (leftSize rightSize left right : Nat) : List Block → List Step
  | [] => change left leftSize right rightSize
  | b :: rest =>
    change left b.left right b.right ++
      ⟨.equal, b.left, b.left + b.size, b.right, b.right + b.size⟩ ::
      stepsFrom leftSize rightSize (b.left + b.size) (b.right + b.size) rest

def script (left right : List Text) : List Step :=
  stepsFrom left.length right.length 0 0 (blocks left right)

/-! ## Hunks -/

/-- Lines of context on each side of a change. -/
def context : Nat := 3

def Step.size (s : Step) : Nat := s.leftStop - s.left

/-- The last lines of an equal stretch. -/
def Step.tail (s : Step) : Step :=
  if s.kind = .equal then
    { s with left := max s.left (s.leftStop - context), right := max s.right (s.rightStop - context) }
  else s

/-- The first lines of an equal stretch. -/
def Step.head (s : Step) : Step :=
  if s.kind = .equal then
    { s with
      leftStop := min s.leftStop (s.left + context)
      rightStop := min s.rightStop (s.right + context) }
  else s

/-- Shortens equal stretches at both ends of a script to their context. -/
def trimEnds (steps : List Step) : List Step :=
  let steps :=
    match steps with
    | [] => []
    | s :: rest => s.tail :: rest
  match steps.reverse with
  | [] => []
  | s :: rest => (s.head :: rest).reverse

/-- Groups the steps; an equal stretch longer than two contexts ends a group and begins the next. -/
def group (current : List Step) : List Step → List (List Step)
  | [] => [current]
  | s :: rest =>
    if s.kind = .equal && 2 * context < s.size then
      (current ++ [s.head]) :: group [s.tail] rest
    else group (current ++ [s]) rest

/-- A group without a change. -/
def idle : List Step → Bool
  | [] => true
  | [s] => s.kind = .equal
  | _ => false

def hunks (steps : List Step) : List (List Step) :=
  match (group [] (trimEnds steps)).reverse with
  | [] => []
  | last :: rest => (if idle last then rest else last :: rest).reverse

/-! ## Writing -/

/-- A stretch of lines: its first line counted from one and its length, when that is not one. -/
def span (start stop : Nat) : String :=
  let length := stop - start
  if length = 1 then toString (start + 1)
  else if length = 0 then s!"{start},{length}"
  else s!"{start + 1},{length}"

def marked (mark : Char) (ls : List Text) (start stop : Nat) : Text :=
  ((ls.drop start).take (stop - start)).flatMap (mark :: ·)

def Step.write (left right : List Text) (s : Step) : Text :=
  match s.kind with
  | .equal => marked ' ' left s.left s.leftStop
  | .delete => marked '-' left s.left s.leftStop
  | .insert => marked '+' right s.right s.rightStop
  | .replace => marked '-' left s.left s.leftStop ++ marked '+' right s.right s.rightStop

def writeHunk (left right : List Text) (steps : List Step) : Text :=
  match steps, steps.getLast? with
  | first :: _, some last =>
    s!"@@ -{span first.left last.leftStop} +{span first.right last.rightStop} @@\n".toList ++
      steps.flatMap (Step.write left right)
  | _, _ => []

end Diff

/-- The unified diff of two versions of a file, empty when they are equal. -/
def unifiedDiff (before after : Text) (name : String) : Text :=
  let left := Text.cut before
  let right := Text.cut after
  match Diff.hunks (Diff.script left right) with
  | [] => []
  | hunks =>
    s!"--- a/{name}\n+++ b/{name}\n".toList ++ hunks.flatMap (Diff.writeHunk left right)

end TidyImports
