import TidyImports.Edit.Basic

/-!
# Edits applied to a text

`Edit.apply` replaces the range of one edit; `applyAll` applies a batch from its last edit to its
first, so that the edits still to come keep their coordinates. An edit whose range lies outside the
text is refused.
-/

namespace TidyImports

inductive PatchFault where
  | line (line count : Nat)
  | column (column line length : Nat)
  deriving DecidableEq, Repr

def PatchFault.message : PatchFault → String
  | .line n count => s!"Edit line {n} is outside a text of {count} line(s)"
  | .column c n length => s!"Edit column {c} is past the end of line {n} ({length} characters)"

/-- The line of a position that lies in the text. -/
def lineAt (ls : List Text) (p : Position) : Except PatchFault Text :=
  match ls[p.line]? with
  | none => .error (.line p.line ls.length)
  | some l => if l.length < p.column then .error (.column p.column p.line l.length) else .ok l

namespace Edit

def apply (text : Text) (e : Edit) : Except PatchFault Text := do
  let ls := text.lines
  let first ← lineAt ls e.start
  let last ← lineAt ls e.stop
  let middle := first.take e.start.column ++ e.newText ++ last.drop e.stop.column
  pure (Text.unlines (ls.take e.start.line ++ middle :: ls.drop (e.stop.line + 1)))

end Edit

def applyAll (text : Text) : Batch → Except PatchFault Text
  | [] => .ok text
  | e :: rest => do
    let text ← applyAll text rest
    e.apply text

/-- Batches applied one after the other. -/
def applyBatches (text : Text) : List Batch → Except PatchFault Text
  | [] => .ok text
  | batch :: rest => do
    let text ← applyAll text batch
    applyBatches text rest

end TidyImports
