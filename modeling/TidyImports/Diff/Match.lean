import TidyImports.Text.LineBreak

/-!
# Matching lines

The common lines of two lists of lines, as blocks: the longest block comes first, the earliest of
those of equal length, and the lines on its two sides are matched in the same way. In a long second
list a line that makes up more than a hundredth of it starts no block; it can still extend one.
-/

namespace TidyImports.Diff

/-- `size` lines from `left` on in the first list equal those from `right` on in the second. -/
structure Block where
  left : Nat
  right : Nat
  size : Nat
  deriving DecidableEq, Repr

/-- The lines of both texts, and for every line of the first the places of its equals in the second
at which a block may start. -/
structure Lines where
  left : Array Text
  right : Array Text
  equals : Array (List Nat)

/-! ## Places of equal lines -/

/-- A line is frequent when it stands more than this often in a list of at least 200 lines. -/
def frequent (count size : Nat) : Bool := 200 ≤ size && size / 100 + 1 < count

def placesOf (line : Text) (right : List Text) : List Nat :=
  let places := (right.zipIdx.filter fun p => p.1 == line).map (·.2)
  if frequent places.length right.length then [] else places

def Lines.of (left right : List Text) : Lines :=
  ⟨left.toArray, right.toArray, (left.map fun l => placesOf l right).toArray⟩

/-! ## The longest block -/

/-- The lengths of the blocks that end at one line of the first list, by their ends in the
second. -/
abbrev Row := List (Nat × Nat)

/-- The length of the block that ends right before the place `j`. -/
def Row.before (row : Row) (j : Nat) : Nat := if j = 0 then 0 else (row.lookup (j - 1)).getD 0

/-- The row of the line `i`, and the best block after it. -/
def nextRow (i : Nat) (row : Row) : List Nat → Row × Block → Row × Block
  | [], state => state
  | j :: rest, (next, best) =>
    let k := row.before j + 1
    let best := if best.size < k then ⟨i + 1 - k, j + 1 - k, k⟩ else best
    nextRow i row rest (next ++ [(j, k)], best)

/-- Goes through `count` lines of the first list from `i` on. -/
def scan (ls : Lines) (low high : Nat) : (count i : Nat) → Row → Block → Block
  | 0, _, _, best => best
  | count + 1, i, row, best =>
    let places := (ls.equals.getD i []).filter fun j => low ≤ j && j < high
    let (next, best) := nextRow i row places ([], best)
    scan ls low high count (i + 1) next best

def sameLine (ls : Lines) (i j : Nat) : Bool :=
  match ls.left[i]?, ls.right[j]? with
  | some l, some r => l == r
  | _, _ => false

/-- Extends a block to the front, as far as `lowLeft` and `lowRight`. -/
def extendFront (ls : Lines) (lowLeft lowRight : Nat) : (left right size : Nat) → Block
  | i + 1, j + 1, size =>
    if lowLeft ≤ i && lowRight ≤ j && sameLine ls i j then
      extendFront ls lowLeft lowRight i j (size + 1)
    else ⟨i + 1, j + 1, size⟩
  | i, j, size => ⟨i, j, size⟩

/-- Extends a block to the back; at most `room` lines may be added. -/
def extendBack (ls : Lines) : (room : Nat) → Block → Block
  | 0, b => b
  | room + 1, b =>
    if sameLine ls (b.left + b.size) (b.right + b.size) then
      extendBack ls room { b with size := b.size + 1 }
    else b

/-- The longest block between two places in each list. -/
def longest (ls : Lines) (lowLeft highLeft lowRight highRight : Nat) : Block :=
  let best := scan ls lowRight highRight (highLeft - lowLeft) lowLeft [] ⟨lowLeft, lowRight, 0⟩
  let best := extendFront ls lowLeft lowRight best.left best.right best.size
  let room := min (highLeft - (best.left + best.size)) (highRight - (best.right + best.size))
  extendBack ls room best

/-! ## All blocks -/

/-- The blocks between two places in each list, in order. Each block takes a line of the first list,
so the fuel of its length and one more suffices. -/
def blocksBetween (ls : Lines) :
    (fuel lowLeft highLeft lowRight highRight : Nat) → List Block
  | 0, _, _, _, _ => []
  | fuel + 1, lowLeft, highLeft, lowRight, highRight =>
    let b := longest ls lowLeft highLeft lowRight highRight
    if b.size = 0 then []
    else
      let front :=
        if lowLeft < b.left && lowRight < b.right then
          blocksBetween ls fuel lowLeft b.left lowRight b.right
        else []
      let back :=
        if b.left + b.size < highLeft && b.right + b.size < highRight then
          blocksBetween ls fuel (b.left + b.size) highLeft (b.right + b.size) highRight
        else []
      front ++ b :: back

/-- Blocks that follow each other without a gap in either list become one. -/
def glue (b : Block) : List Block → List Block
  | [] => [b]
  | c :: rest =>
    if b.left + b.size = c.left ∧ b.right + b.size = c.right then
      glue { b with size := b.size + c.size } rest
    else b :: glue c rest

def blocks (left right : List Text) : List Block :=
  let ls := Lines.of left right
  match blocksBetween ls (left.length + 1) 0 left.length 0 right.length with
  | [] => []
  | b :: rest => glue b rest

end TidyImports.Diff
