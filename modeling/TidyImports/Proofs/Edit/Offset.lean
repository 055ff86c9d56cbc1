import TidyImports.Edit.Splice
import TidyImports.Proofs.Edit.Order
import TidyImports.Proofs.Text.Lines

/-!
# Positions and offsets

A position in a text cuts its lines, and so the text, in two (`exists_cut`). The two parts are what
is taken and dropped at the offset of the position (`take_offset`, `drop_offset`).

What a text says about the positions up to some place hangs only on the characters before it. Two
texts are `SameBefore` a position when they agree on all positions up to it: on which ones are in
bounds, on their offsets and on the characters before them. `sameBefore_append` gives this for texts
with a common beginning.
-/

namespace TidyImports

/-! ## Extents -/

theorem length_unlines_snoc (xs : List Text) (a : Text) :
    (Text.unlines (xs ++ [a])).length = extent xs + a.length := by
  induction xs with
  | nil => simp [Text.unlines, Text.joinWith, extent]
  | cons x xs ih =>
    rw [Text.unlines] at ih
    rw [Text.unlines, List.cons_append, Text.joinWith_cons (by simp)]
    simp only [List.length_append, ih, extent, List.length_cons, List.length_nil]
    omega

/-! ## Cutting a text at a position -/

/-- The lines of the text, cut at the position into `xs` with `a` and `b` with `ys`. -/
structure CutAt (text : Text) (p : Position) (xs : List Text) (a b : Text) (ys : List Text) :
    Prop where
  lines_eq : text.lines = xs ++ (a ++ b) :: ys
  line_eq : xs.length = p.line
  column_eq : a.length = p.column

theorem exists_cut {text : Text} {p : Position} (h : inBounds text p) :
    ∃ xs a b ys, CutAt text p xs a b ys := by
  obtain ⟨l, hl, hc⟩ := h
  obtain ⟨hlt, rfl⟩ := List.getElem?_eq_some_iff.mp hl
  refine ⟨text.lines.take p.line, text.lines[p.line].take p.column,
    text.lines[p.line].drop p.column, text.lines.drop (p.line + 1), ?_, ?_, ?_⟩
  · rw [List.take_append_drop, List.getElem_cons_drop, List.take_append_drop]
  · rw [List.length_take]
    omega
  · rw [List.length_take]
    omega

namespace CutAt

variable {text : Text} {p : Position} {xs : List Text} {a b : Text} {ys : List Text}

theorem line?_eq (h : CutAt text p xs a b ys) : text.lines[p.line]? = some (a ++ b) := by
  rw [h.lines_eq, ← h.line_eq]
  simp

theorem take_line (h : CutAt text p xs a b ys) : text.lines.take p.line = xs := by
  rw [h.lines_eq, ← h.line_eq]
  simp

theorem drop_line (h : CutAt text p xs a b ys) : text.lines.drop (p.line + 1) = ys := by
  rw [h.lines_eq, ← h.line_eq]
  simp

theorem text_eq (h : CutAt text p xs a b ys) :
    text = Text.unlines (xs ++ [a]) ++ Text.unlines (b :: ys) := by
  rw [← Text.unlines_append_cons, ← h.lines_eq, Text.unlines_lines]

theorem offset_eq (h : CutAt text p xs a b ys) :
    (Text.unlines (xs ++ [a])).length = offset text p := by
  rw [length_unlines_snoc, offset, h.take_line, h.column_eq]

theorem take_offset (h : CutAt text p xs a b ys) :
    text.take (offset text p) = Text.unlines (xs ++ [a]) :=
  calc text.take (offset text p)
      = (Text.unlines (xs ++ [a]) ++ Text.unlines (b :: ys)).take (offset text p) :=
        congrArg (List.take (offset text p)) h.text_eq
    _ = Text.unlines (xs ++ [a]) := List.take_left' h.offset_eq

theorem drop_offset (h : CutAt text p xs a b ys) :
    text.drop (offset text p) = Text.unlines (b :: ys) :=
  calc text.drop (offset text p)
      = (Text.unlines (xs ++ [a]) ++ Text.unlines (b :: ys)).drop (offset text p) :=
        congrArg (List.drop (offset text p)) h.text_eq
    _ = Text.unlines (b :: ys) := List.drop_left' h.offset_eq

/-- The text before the position ends there. -/
theorem lines_take_offset (h : CutAt text p xs a b ys) :
    Text.lines (text.take (offset text p)) = xs ++ [a] := by
  rw [h.take_offset]
  apply Text.lines_unlines (by simp)
  intro l hl
  rcases List.mem_append.mp hl with hl | hl
  · exact Text.newline_notMem_of_mem_lines text (by simp [h.lines_eq, hl])
  · have hab : '\n' ∉ a ++ b :=
      Text.newline_notMem_of_mem_lines text (by simp [h.lines_eq])
    rw [List.mem_singleton.mp hl]
    exact fun hm => hab (List.mem_append_left _ hm)

end CutAt

theorem offset_le_length {text : Text} {p : Position} (h : inBounds text p) :
    offset text p ≤ text.length := by
  obtain ⟨xs, a, b, ys, hc⟩ := exists_cut h
  have hlen := congrArg List.length hc.text_eq
  rw [List.length_append, hc.offset_eq] at hlen
  omega

/-! ## The end of a text -/

theorem endOfLines_snoc (zs : List Text) (z : Text) :
    endOfLines (zs ++ [z]) = ⟨zs.length, z.length⟩ := by
  induction zs with
  | nil => rfl
  | cons x xs ih =>
    cases xs with
    | nil => rfl
    | cons y ys =>
      simp only [List.cons_append] at ih ⊢
      rw [endOfLines, ih]
      · rfl
      · simp

theorem cutAt_end {text : Text} {zs : List Text} {z : Text} (h : text.lines = zs ++ [z]) :
    CutAt text (endOfLines text.lines) zs z [] [] := by
  rw [h, endOfLines_snoc]
  exact ⟨by rw [h, List.append_nil], rfl, rfl⟩

theorem CutAt.inBounds {text : Text} {p : Position} {xs : List Text} {a b : Text} {ys : List Text}
    (h : CutAt text p xs a b ys) : inBounds text p := by
  refine ⟨a ++ b, h.line?_eq, ?_⟩
  rw [List.length_append, h.column_eq]
  omega

theorem inBounds_end (text : Text) : inBounds text (endOfLines text.lines) := by
  obtain ⟨zs, z, h⟩ := Text.exists_lines_eq_snoc text
  exact (cutAt_end h).inBounds

theorem offset_end (text : Text) : offset text (endOfLines text.lines) = text.length := by
  obtain ⟨zs, z, h⟩ := Text.exists_lines_eq_snoc text
  rw [← (cutAt_end h).offset_eq, ← h, Text.unlines_lines]

theorem inBounds_origin (text : Text) : inBounds text ⟨0, 0⟩ := by
  obtain ⟨l, ls, h⟩ := Text.exists_lines_eq_cons text
  exact ⟨l, by rw [h]; rfl, Nat.zero_le _⟩

/-! ## What hangs on the characters before a position -/

/-- Up to the position `q`, both texts have the same positions in bounds, at the same offsets and
with the same characters before them. -/
structure SameBefore (text other : Text) (q : Position) : Prop where
  inBounds_iff : ∀ p, p ≤ q → (inBounds other p ↔ inBounds text p)
  offset_eq : ∀ p, p ≤ q → offset other p = offset text p
  take_eq : ∀ p, p ≤ q → inBounds text p →
    other.take (offset text p) = text.take (offset text p)

theorem sameBefore_refl (text : Text) (q : Position) : SameBefore text text q :=
  ⟨fun _ _ => Iff.rfl, fun _ _ => rfl, fun _ _ _ => rfl⟩

section

variable {start : Text} {zs : List Text} {z : Text}

/-- A text whose beginning ends on the line `z` has that line and those before it. -/
theorem lines_of_start (hs : start.lines = zs ++ [z]) (rest : Text) :
    ∃ y ys, (start ++ rest).lines = zs ++ (z ++ y) :: ys := by
  obtain ⟨y, ys, hy⟩ := Text.exists_lines_eq_cons rest
  exact ⟨y, ys, Text.lines_append hs hy⟩

theorem inBounds_append_iff (hs : start.lines = zs ++ [z]) (rest : Text) {p : Position}
    (hp : p ≤ ⟨zs.length, z.length⟩) : inBounds (start ++ rest) p ↔ inBounds start p := by
  obtain ⟨y, ys, hy⟩ := lines_of_start hs rest
  rw [inBounds, inBounds, hs, hy]
  rcases Position.le_iff.mp hp with hlt | ⟨heq, hle⟩
  · change p.line < zs.length at hlt
    rw [List.getElem?_append_left hlt, List.getElem?_append_left hlt]
  · change p.line = zs.length at heq
    change p.column ≤ z.length at hle
    simp only [heq, List.getElem?_append_right (Nat.le_refl _), Nat.sub_self,
      List.getElem?_cons_zero, Option.some.injEq, exists_eq_left', List.length_append]
    omega

theorem offset_append (hs : start.lines = zs ++ [z]) (rest : Text) {p : Position}
    (hp : p ≤ ⟨zs.length, z.length⟩) : offset (start ++ rest) p = offset start p := by
  obtain ⟨y, ys, hy⟩ := lines_of_start hs rest
  have hle : p.line ≤ zs.length := by
    rcases Position.le_iff.mp hp with hlt | ⟨heq, -⟩
    · exact Nat.le_of_lt hlt
    · exact Nat.le_of_eq heq
  rw [offset, offset, hs, hy, List.take_append_of_le_length hle, List.take_append_of_le_length hle]

theorem sameBefore_append (hs : start.lines = zs ++ [z]) (rest rest' : Text) :
    SameBefore (start ++ rest) (start ++ rest') ⟨zs.length, z.length⟩ := by
  refine ⟨fun p hp => ?_, fun p hp => ?_, fun p hp hin => ?_⟩
  · rw [inBounds_append_iff hs rest hp, inBounds_append_iff hs rest' hp]
  · rw [offset_append hs rest hp, offset_append hs rest' hp]
  · have hle := offset_le_length ((inBounds_append_iff hs rest hp).mp hin)
    rw [offset_append hs rest hp, List.take_append_of_le_length hle,
      List.take_append_of_le_length hle]

end

/-- A text that begins like another one up to a position agrees with it up to there. -/
theorem sameBefore_of_take {text : Text} {q : Position} (hq : inBounds text q) (rest : Text) :
    SameBefore text (text.take (offset text q) ++ rest) q := by
  obtain ⟨xs, a, b, ys, hc⟩ := exists_cut hq
  have h := sameBefore_append hc.lines_take_offset (text.drop (offset text q)) rest
  rw [List.take_append_drop] at h
  have hend : (⟨xs.length, a.length⟩ : Position) = q := by
    rw [hc.line_eq, hc.column_eq]
  rwa [hend] at h

theorem SameBefore.mono {text other : Text} {p q : Position} (h : SameBefore text other q)
    (hp : p ≤ q) : SameBefore text other p :=
  ⟨fun r hr => h.inBounds_iff r (hr.trans hp), fun r hr => h.offset_eq r (hr.trans hp),
    fun r hr => h.take_eq r (hr.trans hp)⟩

/-- The order of positions is the order of offsets. -/
theorem offset_le_offset {text : Text} {p q : Position} (hp : inBounds text p)
    (hq : inBounds text q) (h : p ≤ q) : offset text p ≤ offset text q := by
  have hs := sameBefore_of_take hq []
  have hin := (hs.inBounds_iff p h).mpr hp
  have hle := offset_le_length hin
  rw [hs.offset_eq p h, List.append_nil, List.length_take] at hle
  omega

end TidyImports
