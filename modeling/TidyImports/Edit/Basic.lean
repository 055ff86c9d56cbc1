import TidyImports.Text.Basic

/-!
# Positions, ranges and edits

Lines and columns count from zero, columns in characters. A `Range` carries the proof that its end
does not precede its start. `Range.meets` holds of two ranges that share more than a point, and
`documentRange` covers a whole text.
-/

namespace TidyImports

/-! ## Positions -/

structure Position where
  line : Nat
  column : Nat
  deriving DecidableEq, Repr

namespace Position

instance : LE Position := ⟨fun a b => a.line < b.line ∨ a.line = b.line ∧ a.column ≤ b.column⟩

instance : LT Position := ⟨fun a b => a.line < b.line ∨ a.line = b.line ∧ a.column < b.column⟩

instance (a b : Position) : Decidable (a ≤ b) :=
  inferInstanceAs (Decidable (a.line < b.line ∨ a.line = b.line ∧ a.column ≤ b.column))

instance (a b : Position) : Decidable (a < b) :=
  inferInstanceAs (Decidable (a.line < b.line ∨ a.line = b.line ∧ a.column < b.column))

theorem le_iff {a b : Position} :
    a ≤ b ↔ a.line < b.line ∨ a.line = b.line ∧ a.column ≤ b.column := Iff.rfl

theorem lt_iff {a b : Position} :
    a < b ↔ a.line < b.line ∨ a.line = b.line ∧ a.column < b.column := Iff.rfl

theorem le_refl (a : Position) : a ≤ a := by
  rw [le_iff]
  omega

theorem le_trans {a b c : Position} (h : a ≤ b) (k : b ≤ c) : a ≤ c := by
  rw [le_iff] at *
  omega

def first (a b : Position) : Position := if b < a then b else a

def last (a b : Position) : Position := if a < b then b else a

theorem first_le_last {a b c d : Position} (h : a ≤ b) (k : c ≤ d) : first a c ≤ last b d := by
  unfold first last
  split <;> split <;> rw [le_iff] at * <;> rw [lt_iff] at * <;> omega

end Position

/-! ## Ranges -/

/-- A span of text; an empty one is a place to insert at. -/
structure Range where
  start : Position
  stop : Position
  ordered : start ≤ stop
  deriving DecidableEq, Repr

namespace Range

def empty (r : Range) : Bool := r.start == r.stop

/-- Two ranges share more than a point. -/
def meets (r s : Range) : Bool :=
  Position.last r.start s.start < Position.first r.stop s.stop

/-- The least range around two ranges. -/
def union (r s : Range) : Range :=
  ⟨Position.first r.start s.start, Position.last r.stop s.stop,
    Position.first_le_last r.ordered s.ordered⟩

/-- Ranges are ordered by their starts, then by their ends. -/
def order (r s : Range) : Ordering :=
  if r.start < s.start then .lt
  else if s.start < r.start then .gt
  else if r.stop < s.stop then .lt
  else if s.stop < r.stop then .gt
  else .eq

end Range

/-! ## Edits -/

/-- The text of a range gives way to a new text. -/
structure Edit where
  range : Range
  newText : Text
  deriving DecidableEq, Repr

abbrev Batch := List Edit

namespace Edit

def start (e : Edit) : Position := e.range.start

def stop (e : Edit) : Position := e.range.stop

/-- Edits are ordered by start, then by end, then by new text. -/
def le (a b : Edit) : Bool :=
  match a.range.order b.range with
  | .lt => true
  | .gt => false
  | .eq => Text.le a.newText b.newText

end Edit

/-! ## Whole texts -/

/-- The end of the last of some lines. -/
def endOfLines : List Text → Position
  | [] => ⟨0, 0⟩
  | [l] => ⟨0, l.length⟩
  | _ :: ls => ⟨(endOfLines ls).line + 1, (endOfLines ls).column⟩

def documentRange (text : Text) : Range :=
  ⟨⟨0, 0⟩, endOfLines text.lines, by rw [Position.le_iff]; simp; omega⟩

end TidyImports
