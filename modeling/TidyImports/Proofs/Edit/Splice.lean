import Mathlib.Data.List.Chain
import TidyImports.Proofs.Edit.Offset

/-!
# Batches applied are batches spliced

`applyAll` works on lines and from the last edit to the first, `splice` on characters and all at
once. They agree on every batch whose edits lie one behind the other (`applyAll_eq_splice`), and an
edit outside the text as it was is refused. An edit leaves the text before it as it is, with the
addresses of all its positions (`sameBefore_splice`), which is what the edits still to come need.
-/

namespace TidyImports

/-! ## One edit -/

instance (text : Text) (p : Position) : Decidable (inBounds text p) :=
  decidable_of_iff (text.lines[p.line]?.any fun l => p.column ≤ l.length) (by
    rw [inBounds, Option.any_eq_true]
    simp)

/-- Both ends of the edit lie in the text. -/
def Edit.fits (text : Text) (e : Edit) : Prop := inBounds text e.start ∧ inBounds text e.stop

theorem lineAt_of_cut {text : Text} {p : Position} {xs : List Text} {a b : Text} {ys : List Text}
    (h : CutAt text p xs a b ys) : lineAt text.lines p = .ok (a ++ b) := by
  have hle : ¬ (a ++ b).length < p.column := by
    rw [List.length_append, h.column_eq]
    omega
  simp only [lineAt, h.line?_eq, if_neg hle]

theorem inBounds_of_lineAt {text l : Text} {p : Position} (h : lineAt text.lines p = .ok l) :
    inBounds text p := by
  unfold lineAt at h
  split at h
  · cases h
  · rename_i l' hl
    split at h
    · cases h
    · rename_i hc
      exact ⟨l', hl, Nat.le_of_not_lt hc⟩

theorem Edit.apply_of_fits {text : Text} {e : Edit} (h : e.fits text) :
    e.apply text = .ok (text.take (offset text e.start) ++ e.newText ++
      text.drop (offset text e.stop)) := by
  obtain ⟨xs, a, b, ys, hs⟩ := exists_cut h.1
  obtain ⟨xs', a', b', ys', ht⟩ := exists_cut h.2
  have ha : (a ++ b).take e.start.column = a := List.take_left' hs.column_eq
  have hb : (a' ++ b').drop e.stop.column = b' := List.drop_left' ht.column_eq
  have hnew : Text.unlines (xs ++ [a ++ e.newText]) = Text.unlines (xs ++ [a]) ++ e.newText :=
    Text.unlines_append_cons xs a e.newText []
  simp only [apply, lineAt_of_cut hs, lineAt_of_cut ht, bind, Except.bind, pure, Except.pure, ha, hb,
    hs.take_line, ht.drop_line, hs.take_offset, ht.drop_offset, Text.unlines_append_cons, hnew]

theorem Edit.fits_of_apply {text result : Text} {e : Edit} (h : e.apply text = .ok result) :
    e.fits text := by
  unfold apply at h
  cases hs : lineAt text.lines e.start with
  | error fault => simp [hs, bind, Except.bind] at h
  | ok first =>
    cases ht : lineAt text.lines e.stop with
    | error fault => simp [hs, ht, bind, Except.bind] at h
    | ok last => exact ⟨inBounds_of_lineAt hs, inBounds_of_lineAt ht⟩

/-- The edit of a whole text leaves nothing of it. -/
theorem apply_documentRange (text new : Text) :
    Edit.apply text ⟨documentRange text, new⟩ = .ok new := by
  have hfit : Edit.fits text ⟨documentRange text, new⟩ := ⟨inBounds_origin text, inBounds_end text⟩
  have hstart : offset text ⟨0, 0⟩ = 0 := rfl
  rw [Edit.apply_of_fits hfit]
  simp only [Edit.start, Edit.stop, documentRange, hstart, offset_end, List.take_zero,
    List.drop_length, List.nil_append, List.append_nil]

/-! ## Splicing -/

theorem splice_cons (text : Text) (e : Edit) (rest : Batch) :
    splice text (e :: rest) = text.take (offset text e.start) ++
      (e.newText ++ spliceFrom text (offset text e.stop) rest) := by
  rw [splice, spliceFrom, List.drop_zero, List.append_assoc]

/-- Before the first edit of a batch nothing changes, neither characters nor addresses. -/
theorem sameBefore_splice {text : Text} {rest : Batch} {q : Position}
    (hfit : ∀ f ∈ rest, f.fits text) (hq : ∀ f ∈ rest.head?, q ≤ f.start) :
    SameBefore text (splice text rest) q := by
  cases rest with
  | nil => exact sameBefore_refl text q
  | cons f rest =>
    rw [splice_cons]
    exact (sameBefore_of_take (hfit f List.mem_cons_self).1 _).mono (hq f rfl)

theorem drop_splice {text : Text} {rest : Batch} {q : Position} (hin : inBounds text q)
    (hfit : ∀ f ∈ rest, f.fits text) (hq : ∀ f ∈ rest.head?, q ≤ f.start) :
    (splice text rest).drop (offset text q) = spliceFrom text (offset text q) rest := by
  cases rest with
  | nil => rfl
  | cons f rest =>
    have hf := (hfit f List.mem_cons_self).1
    have hle : offset text q ≤ (text.take (offset text f.start)).length := by
      have h₁ := offset_le_offset hin hf (hq f rfl)
      have h₂ := offset_le_length hf
      rw [List.length_take]
      omega
    rw [splice_cons, List.drop_append_of_le_length hle, spliceFrom, List.append_assoc]

/-! ## Whole batches -/

section

variable {text : Text} {e : Edit} {rest : Batch}

/-- An edit before a batch lies in the changed text exactly when it lies in the text as it was. -/
theorem fits_splice_iff (hfit : ∀ f ∈ rest, f.fits text) (hq : ∀ f ∈ rest.head?, e.stop ≤ f.start) :
    e.fits (splice text rest) ↔ e.fits text := by
  have hs := sameBefore_splice hfit hq
  rw [Edit.fits, Edit.fits, hs.inBounds_iff _ e.start_le_stop, hs.inBounds_iff _ (le_refl _)]

theorem apply_splice (he : e.fits text) (hfit : ∀ f ∈ rest, f.fits text)
    (hq : ∀ f ∈ rest.head?, e.stop ≤ f.start) :
    e.apply (splice text rest) = .ok (splice text (e :: rest)) := by
  have hs := sameBefore_splice hfit hq
  rw [Edit.apply_of_fits ((fits_splice_iff hfit hq).mpr he), hs.offset_eq _ e.start_le_stop,
    hs.offset_eq _ (le_refl _), hs.take_eq _ e.start_le_stop he.1, drop_splice he.2 hfit hq,
    splice_cons, List.append_assoc]

end

/-- From the last edit to the first: what has been applied so far is spliced, and the next edit
finds everything before it unchanged. -/
theorem applyAll_of_fits {text : Text} {batch : Batch}
    (hc : batch.IsChain fun a b => a.stop ≤ b.start) (hfit : ∀ e ∈ batch, e.fits text) :
    applyAll text batch = .ok (splice text batch) := by
  induction batch with
  | nil => rfl
  | cons e rest ih =>
    obtain ⟨hq, hrest⟩ := List.isChain_cons.mp hc
    have hfit' : ∀ f ∈ rest, f.fits text := fun f hf => hfit f (List.mem_cons_of_mem _ hf)
    rw [applyAll, ih hrest hfit']
    exact apply_splice (hfit e List.mem_cons_self) hfit' hq

theorem fits_of_applyAll {text result : Text} {batch : Batch}
    (hc : batch.IsChain fun a b => a.stop ≤ b.start) (h : applyAll text batch = .ok result) :
    ∀ e ∈ batch, e.fits text := by
  induction batch generalizing result with
  | nil => simp
  | cons e rest ih =>
    obtain ⟨hq, hrest⟩ := List.isChain_cons.mp hc
    rw [applyAll] at h
    cases hr : applyAll text rest with
    | error fault => simp [hr, bind, Except.bind] at h
    | ok changed =>
      have hfit := ih hrest hr
      rw [applyAll_of_fits hrest hfit] at hr
      cases hr
      rw [applyAll_of_fits hrest hfit] at h
      intro f hf
      rcases List.mem_cons.mp hf with rfl | hf
      · exact (fits_splice_iff hfit hq).mp (Edit.fits_of_apply h)
      · exact hfit f hf

/-- **Batches by lines and by offsets.** A batch whose edits lie one behind the other is refused
exactly when an edit has an end outside the text as it was, and else replaces all ranges at once. A
batch of one edit does what the edit does. -/
theorem applyAll_eq_splice (text : Text) (batch : Batch)
    (hc : batch.IsChain fun a b => a.stop ≤ b.start) :
    ((∃ fault, applyAll text batch = .error fault) ↔
      ∃ e ∈ batch, ¬ inBounds text e.start ∨ ¬ inBounds text e.stop) ∧
    ((∀ e ∈ batch, inBounds text e.start ∧ inBounds text e.stop) →
      applyAll text batch = .ok (splice text batch)) ∧
    ∀ e, batch = [e] → applyAll text batch = e.apply text := by
  refine ⟨⟨fun ⟨fault, h⟩ => ?_, fun ⟨e, he, hout⟩ => ?_⟩, applyAll_of_fits hc, ?_⟩
  · by_contra hall
    have hfit : ∀ e ∈ batch, e.fits text := by
      intro e he
      by_contra hout
      exact hall ⟨e, he, not_and_or.mp hout⟩
    rw [applyAll_of_fits hc hfit] at h
    cases h
  · cases h : applyAll text batch with
    | error fault => exact ⟨fault, rfl⟩
    | ok result =>
      obtain ⟨hstart, hstop⟩ := fits_of_applyAll hc h e he
      rcases hout with hout | hout
      · exact absurd hstart hout
      · exact absurd hstop hout
  · rintro e rfl
    rfl

/-- Touching edits, and two insertions at one point. -/
theorem applyAll_touching :
    applyAll ['a', 'b', '\n', 'c', 'd']
      [⟨⟨⟨0, 1⟩, ⟨1, 0⟩, by decide⟩, ['x', '\n', 'y']⟩, ⟨⟨⟨1, 0⟩, ⟨1, 0⟩, by decide⟩, ['p']⟩,
        ⟨⟨⟨1, 0⟩, ⟨1, 0⟩, by decide⟩, ['\n']⟩, ⟨⟨⟨1, 0⟩, ⟨1, 1⟩, by decide⟩, []⟩] =
      .ok ['a', 'x', '\n', 'y', 'p', '\n', 'd'] :=
  (applyAll_eq_splice _ _ (by decide)).2.1 (by decide)

end TidyImports
