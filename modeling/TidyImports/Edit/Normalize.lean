import TidyImports.Edit.Basic

/-!
# Normal batches

The edits that a linter proposes for one text may repeat and overlap. `normalize` sorts them and
walks them with an accumulator: a repetition of the accumulator is dropped, an edit that meets its
range is merged into it, and any other edit takes its place.
-/

namespace TidyImports

namespace Edit

/-- The union of two ranges with both texts, in that order. -/
def join (a b : Edit) : Edit := ⟨a.range.union b.range, a.newText ++ b.newText⟩

/-- Merges sorted edits into the accumulator `last`. -/
def merge (last : Edit) : List Edit → Batch
  | [] => [last]
  | e :: rest =>
    if e = last then merge last rest
    else if e.range.meets last.range then merge (last.join e) rest
    else last :: merge e rest

def sort (edits : List Edit) : List Edit := edits.mergeSort Edit.le

end Edit

def normalize (edits : List Edit) : Batch :=
  match Edit.sort edits with
  | [] => []
  | e :: rest => Edit.merge e rest

@[simp] theorem normalize_nil : normalize [] = [] := by simp [normalize, Edit.sort]

end TidyImports
