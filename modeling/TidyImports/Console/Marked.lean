import TidyImports.Console.Style
import TidyImports.Console.Wrap
import TidyImports.Failure

/-!
# Marked texts

A marked text has stretches in a style. `Marked.lines` breaks it into lines as `Wrap` does, and the
stretches with it: a style that makes no sense is a failure if it reaches a line. A stretch of no
characters survives only while its text stays in one piece.
-/

namespace TidyImports

/-- A stretch of a text in a style. -/
structure Marked.Span where
  start : Nat
  stop : Nat
  style : Text

structure Marked where
  text : Text := []
  spans : List Marked.Span := []

namespace Marked

/-! ## Cutting -/

/-- What a piece of the text holds of a span, counted from the start of the piece. -/
def Span.within? (start length : Nat) (s : Span) : Option Span :=
  let a := max s.start start
  let b := min s.stop (start + length)
  if a < b then some { s with start := a - start, stop := b - start } else none

def slice (m : Marked) (start length : Nat) : Marked :=
  ⟨(m.text.drop start).take length, m.spans.filterMap (Span.within? start length)⟩

/-- Pieces of given lengths, with `gap` characters between each two. -/
def slices (m : Marked) (gap start : Nat) : List Nat → List Marked
  | [] => []
  | n :: rest => m.slice start n :: slices m gap (start + n + gap) rest

/-- Cuts a text into pieces; a single piece is the text itself. -/
def cut (m : Marked) (gap : Nat) : List Text → List Marked
  | [_] => [m]
  | pieces => m.slices gap 0 (pieces.map List.length)

def expandTabs (m : Marked) : Marked :=
  if '\t' ∈ m.text then
    let place := fun i => (Wrap.expandTabs 0 (m.text.take i)).length
    let spans := m.spans.filter fun s => s.start < s.stop
    ⟨Wrap.expandTabs 0 m.text,
      spans.map fun s => { s with start := place s.start, stop := place s.stop }⟩
  else m

/-- Shortens a text that does not fit, with the spans beyond its new end. -/
def shorten (justify : Wrap.Justify) (overflow : Wrap.Overflow) (width : Nat) (m : Marked) :
    Marked :=
  let text := Wrap.shorten justify overflow width m.text
  if text.length < m.text.length then ⟨text, m.spans.filter fun s => s.start < text.length⟩
  else ⟨text, m.spans⟩

/-! ## Lines -/

def Span.fault? (s : Span) : Option Numeral.Fault :=
  match Style.parse s.style with
  | .error (.numeral fault) => some fault
  | _ => none

/-- The parts of a text that come to stand on lines of their own. -/
def parts (justify : Wrap.Justify) (overflow : Wrap.Overflow) (width : Nat) (m : Marked) :
    List Marked :=
  (m.cut 1 m.text.lines).flatMap fun line =>
    let line := line.expandTabs
    (line.cut 0 (Wrap.parts overflow width line.text)).map (shorten justify overflow width)

/-- The lines of a text, if every style in them makes sense. -/
def lines (justify : Wrap.Justify) (overflow : Wrap.Overflow) (width : Nat) (m : Marked) :
    Except Failure (List Text) :=
  let parts := m.parts justify overflow width
  match (parts.flatMap (·.spans)).findSome? Span.fault? with
  | some fault => .error (.invalid (.numeral fault))
  | none => .ok (parts.map fun part => Wrap.pad justify width part.text)

end Marked
end TidyImports
