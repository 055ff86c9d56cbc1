import TidyImports.Edit.Apply

/-!
# Edits spliced by character offsets

What a batch does to a text, said without lines: `offset` turns a position into a count of
characters, `splice` replaces all ranges of a batch at once, and `erase` drops the characters whose
offsets lie in some range.
-/

namespace TidyImports

/-- The characters of some lines, each with its line feed. -/
def extent : List Text → Nat
  | [] => 0
  | l :: ls => l.length + 1 + extent ls

/-- The offset of a position: the characters of the lines before it and its column. -/
def offset (text : Text) (p : Position) : Nat := extent (text.lines.take p.line) + p.column

/-- The position lies in the text. -/
def inBounds (text : Text) (p : Position) : Prop :=
  ∃ l, text.lines[p.line]? = some l ∧ p.column ≤ l.length

/-- The text from the offset `done` on, with every range replaced by the new text of its edit. -/
def spliceFrom (text : Text) (done : Nat) : Batch → Text
  | [] => text.drop done
  | e :: rest =>
    (text.take (offset text e.start)).drop done ++ e.newText ++
      spliceFrom text (offset text e.stop) rest

def splice (text : Text) (batch : Batch) : Text := spliceFrom text 0 batch

/-- The offset lies in the range of some edit. -/
def covered (text : Text) (edits : List Edit) (n : Nat) : Bool :=
  edits.any fun e => offset text e.start ≤ n && n < offset text e.stop

/-- The text without the characters in the ranges of the edits. -/
def erase (text : Text) (edits : List Edit) : Text :=
  (text.zipIdx.filter fun p => !covered text edits p.2).map (·.1)

end TidyImports
