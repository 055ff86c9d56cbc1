import TidyImports.Data.Order
import TidyImports.Data.Sorting
import TidyImports.Failure

/-!
# Proposals

An edit as a linter proposes it: its replacement may be a value of any kind. Proposals whose
replacements are all texts are edits, which `batch?` gives. All others cannot be applied, and
`tryAll` finds the fault that stands in the way: they are brought into the order of a normal batch
and tried on the text from the last to the first.
-/

namespace TidyImports

structure Proposal where
  range : Range
  content : Value

namespace Proposal

/-! ## Proposals that are edits -/

def ofEdit (e : Edit) : Proposal := ⟨e.range, .text (String.ofList e.newText)⟩

def edit? (p : Proposal) : Option Edit :=
  match p.content with
  | .text s => some ⟨p.range, s.toList⟩
  | _ => none

@[simp] theorem edit?_ofEdit (e : Edit) : (ofEdit e).edit? = some e := by
  simp [ofEdit, edit?]

/-- The edits of proposals, if every replacement is a text. -/
def batch? : List Proposal → Option (List Edit)
  | [] => some []
  | p :: rest =>
    match p.edit?, batch? rest with
    | some e, some es => some (e :: es)
    | _, _ => none

theorem batch?_map_ofEdit (es : List Edit) : batch? (es.map ofEdit) = some es := by
  induction es with
  | nil => rfl
  | cons e rest ih => simp [batch?, ih]

def positionValue (p : Position) : Value :=
  .table [("line", .int p.line), ("column", .int p.column)]

def toValue (p : Proposal) : Value :=
  .table [("start", positionValue p.range.start), ("end", positionValue p.range.stop),
    ("new_text", p.content)]

/-! ## Order -/

/-- Proposals are ordered by range, then by replacement, which may have no order. -/
def less? (p q : Proposal) : Option Bool :=
  match p.range.order q.range with
  | .lt => some true
  | .gt => some false
  | .eq => if p.content.alike q.content then some false else p.content.less? q.content

def alike (p q : Proposal) : Bool := p.range == q.range && p.content.alike q.content

/-! ## Normal order -/

/-- The union of two ranges with the sum of both replacements. -/
def join (p q : Proposal) : Except Failure Proposal :=
  match p.content.plus q.content with
  | .ok content => .ok ⟨p.range.union q.range, content⟩
  | .error .kinds => .error (.misuse .wrongKind)
  | .error .tooLarge => .error (.misuse .infinite)

/-- Merges sorted proposals into the accumulator `last`. -/
def merge (last : Proposal) : List Proposal → Except Failure (List Proposal)
  | [] => .ok [last]
  | p :: rest =>
    if p.alike last then merge last rest
    else if p.range.meets last.range then do merge (← last.join p) rest
    else do
      let merged ← merge p rest
      pure (last :: merged)

def normalize (proposals : List Proposal) : Except Failure (List Proposal) :=
  match Sorting.sort? less? proposals with
  | none => .error (.misuse .wrongKind)
  | some [] => .ok []
  | some (p :: rest) => merge p rest

/-! ## Trying -/

/-- The text after one proposal. A range outside the text is found before the replacement is
looked at. -/
def tryOn (text : Text) (p : Proposal) : Except Failure Text := do
  let text ← (Edit.apply text ⟨p.range, (p.edit?.map (·.newText)).getD []⟩).mapError .patch
  if p.edit?.isSome then pure text else .error (.misuse .wrongKind)

/-- The text after all proposals, the last one first. -/
def tryAll (text : Text) : List Proposal → Except Failure Text
  | [] => .ok text
  | p :: rest => do
    let text ← tryAll text rest
    p.tryOn text

end Proposal
end TidyImports
