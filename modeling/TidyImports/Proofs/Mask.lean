import TidyImports.Mask
import TidyImports.Proofs.Text.Lines

/-!
# What masking keeps

* `mask_of_isEmpty`: a text for which nothing was remembered holds no magic line, and its masked
  form is the text itself.
* `unmaskLine_mask`: what was remembered of a text turns a comment into the magic line that differs
  from it in the first character alone, if the text has that line, and leaves every other line.
* `unmask_mask_eq_iff`: a text is restored from its masked form exactly when none of its
  comments looks like one of its magic lines masked. Lines are looked up by content, so a comment
  that does is taken for the magic line (`unmask_mask_ne`).
* `unmask_edited`: of a text that was changed meanwhile, each line is looked up by itself, wherever
  it stands now.
-/

namespace TidyImports

theorem MaskMap.put_ne_nil (lines : List (Text × Text)) (masked source : Text) :
    put lines masked source ≠ [] := by
  cases lines with
  | nil => simp [put]
  | cons entry rest =>
    unfold put
    split <;> simp

theorem MaskMap.isEmpty_record (map : MaskMap) (masked source : Text) :
    (map.record masked source).isEmpty = false := by
  rw [isEmpty, record]
  exact List.isEmpty_eq_false_iff.mpr (put_ne_nil _ _ _)

theorem maskLine_of_not_isMagic {line : Text} (h : isMagic line = false) :
    maskLine line = line := by
  cases line with
  | nil => rfl
  | cons c rest =>
    have hc : c ≠ '%' := by
      rintro rfl
      simp [isMagic] at h
    unfold maskLine
    split
    · rename_i h
      exact absurd (List.cons.inj h).1 hc
    · rfl

/-- Once something is remembered it stays so; a map that ends up empty has met no magic line. -/
theorem maskLines_of_isEmpty {map : MaskMap} {ls : List Text}
    (h : (maskLines map ls).1.isEmpty = true) :
    map.isEmpty = true ∧ (maskLines map ls).2 = ls := by
  induction ls generalizing map with
  | nil => exact ⟨h, rfl⟩
  | cons l rest ih =>
    simp only [maskLines] at h ⊢
    cases hm : isMagic l with
    | true =>
      rw [hm, if_pos rfl] at h
      have hrec := (ih h).1
      rw [MaskMap.isEmpty_record] at hrec
      cases hrec
    | false =>
      simp only [hm, Bool.false_eq_true, ↓reduceIte] at h ⊢
      obtain ⟨hmap, hrest⟩ := ih h
      exact ⟨hmap, by rw [hrest, maskLine_of_not_isMagic hm]⟩

theorem mask_of_isEmpty {text : Text} (h : (mask text).1.isEmpty = true) :
    (mask text).2 = text := by
  change Text.unlines (maskLines .empty text.lines).2 = text
  rw [(maskLines_of_isEmpty h).2, Text.unlines_lines]

theorem unmask_of_isEmpty {map : MaskMap} (h : map.isEmpty = true) (text : Text) :
    unmask map text = text := by
  rw [unmask, if_pos h]

/-! ## What is remembered -/

theorem MaskMap.lookup_cons_eq_ite (masked source line : Text) (rest : List (Text × Text)) :
    ((masked, source) :: rest).lookup line =
      if line = masked then some source else rest.lookup line := by
  rw [List.lookup_cons]
  by_cases h : line = masked
  · rw [if_pos h, beq_iff_eq.mpr h]
  · rw [if_neg h, beq_eq_false_iff_ne.mpr h]

theorem MaskMap.lookup_put (lines : List (Text × Text)) (masked source line : Text) :
    (put lines masked source).lookup line =
      if line = masked then some source else lines.lookup line := by
  induction lines with
  | nil => rw [put, lookup_cons_eq_ite]
  | cons entry rest ih =>
    obtain ⟨m, o⟩ := entry
    rw [put]
    by_cases hm : m = masked
    · subst hm
      rw [if_pos rfl, lookup_cons_eq_ite, lookup_cons_eq_ite]
      split <;> rfl
    · rw [if_neg hm, lookup_cons_eq_ite, lookup_cons_eq_ite, ih]
      -- the key that keeps its place is not the one that was put
      by_cases h : line = m
      · rw [if_pos h, if_pos h, if_neg (h ▸ hm)]
      · rw [if_neg h, if_neg h]

theorem MaskMap.unmasked?_record (map : MaskMap) (masked source line : Text) :
    (map.record masked source).unmasked? line =
      if line = masked then some source else map.unmasked? line :=
  lookup_put map.lines masked source line

theorem isMagic_iff {line : Text} : isMagic line = true ↔ ∃ rest, line = '%' :: rest := by
  cases line with
  | nil => simp [isMagic]
  | cons c rest => simp [isMagic]

/-- A repeated magic line is remembered with the same source again, so the latest record agrees
with all earlier ones. -/
theorem unmasked?_maskLines_comment (map : MaskMap) (ls : List Text) (rest : Text) :
    (maskLines map ls).1.unmasked? ('#' :: rest) =
      if '%' :: rest ∈ ls then some ('%' :: rest) else map.unmasked? ('#' :: rest) := by
  induction ls generalizing map with
  | nil => simp [maskLines]
  | cons l ls ih =>
    simp only [maskLines, ih, List.mem_cons]
    by_cases hls : '%' :: rest ∈ ls
    · simp [hls]
    · cases hm : isMagic l with
      | true =>
        obtain ⟨tail, rfl⟩ := isMagic_iff.mp hm
        rw [if_pos rfl, MaskMap.unmasked?_record, maskLine]
        by_cases htail : rest = tail
        · simp [htail]
        · simp [hls, htail]
      | false =>
        have hne : '%' :: rest ≠ l := by
          rintro rfl
          simp [isMagic] at hm
        simp [hls, hne]

theorem unmasked?_maskLines_of_head {line : Text} (h : line.head? ≠ some '#') (map : MaskMap)
    (ls : List Text) : (maskLines map ls).1.unmasked? line = map.unmasked? line := by
  induction ls generalizing map with
  | nil => rfl
  | cons l ls ih =>
    simp only [maskLines, ih]
    cases hm : isMagic l with
    | false => rfl
    | true =>
      obtain ⟨tail, rfl⟩ := isMagic_iff.mp hm
      have hne : line ≠ '#' :: tail := by
        rintro rfl
        exact h rfl
      rw [if_pos rfl, MaskMap.unmasked?_record, maskLine, if_neg hne]

/-! ## What is restored -/

/-- What a line of any text becomes, if the masked document had the lines `ls`. -/
def restoredLine (ls : List Text) : Text → Text
  | '#' :: rest => if ls.contains ('%' :: rest) then '%' :: rest else '#' :: rest
  | line => line

theorem restoredLine_of_head {line : Text} (h : line.head? ≠ some '#') (ls : List Text) :
    restoredLine ls line = line := by
  unfold restoredLine
  split
  · exact absurd rfl h
  · rfl

theorem restoredLine_comment {ls : List Text} {rest : Text} (h : '%' :: rest ∈ ls) :
    restoredLine ls ('#' :: rest) = '%' :: rest := by
  rw [restoredLine, if_pos (List.contains_iff_mem.mpr h)]

/-- Only the lines of the text itself were remembered, and none of them is empty. -/
theorem unmaskLine_mask (text line : Text) :
    unmaskLine (mask text).1 line = restoredLine text.lines line := by
  change unmaskLine (maskLines .empty text.lines).1 line = restoredLine text.lines line
  by_cases hhead : line.head? = some '#'
  · obtain ⟨rest, rfl⟩ := List.head?_eq_some_iff.mp hhead
    rw [unmaskLine, unmasked?_maskLines_comment, restoredLine]
    by_cases hmem : '%' :: rest ∈ text.lines
    · rw [if_pos hmem, if_pos (List.contains_iff_mem.mpr hmem)]
    · rw [if_neg hmem, if_neg fun h => hmem (List.contains_iff_mem.mp h)]
      rfl
  · rw [unmaskLine, unmasked?_maskLines_of_head hhead, restoredLine_of_head hhead]
    rfl

theorem unmaskLine_of_isEmpty {map : MaskMap} (h : map.isEmpty = true) (line : Text) :
    unmaskLine map line = line := by
  have hlines : map.lines = [] := List.isEmpty_iff.mp h
  rw [unmaskLine, MaskMap.unmasked?, hlines, List.lookup_nil]

/-- With nothing to restore a text is handed back as it is, which is what looking up its lines
would do. -/
theorem unmask_eq_unlines (map : MaskMap) (text : Text) :
    unmask map text = Text.unlines (text.lines.map (unmaskLine map)) := by
  rw [unmask]
  split
  · rename_i hempty
    have hid : text.lines.map (unmaskLine map) = text.lines :=
      List.map_id'' (unmaskLine_of_isEmpty hempty) text.lines
    rw [hid, Text.unlines_lines]
  · rfl

theorem newline_notMem_restoredLine {line : Text} (h : '\n' ∉ line) (ls : List Text) :
    '\n' ∉ restoredLine ls line := by
  unfold restoredLine
  split
  · split
    · simpa using h
    · exact h
  · exact h

theorem lines_unmask_mask (text other : Text) :
    (unmask (mask text).1 other).lines = other.lines.map (restoredLine text.lines) := by
  have hfun : unmaskLine (mask text).1 = restoredLine text.lines := by
    funext line
    exact unmaskLine_mask text line
  rw [unmask_eq_unlines, hfun]
  apply Text.lines_unlines_map
  intro line hl
  exact newline_notMem_restoredLine (Text.newline_notMem_of_mem_lines other hl) _

/-! ## The way there and back -/

theorem newline_notMem_maskLine {line : Text} (h : '\n' ∉ line) : '\n' ∉ maskLine line := by
  unfold maskLine
  split
  · simpa using h
  · exact h

theorem maskLines_snd (map : MaskMap) (ls : List Text) :
    (maskLines map ls).2 = ls.map maskLine := by
  induction ls generalizing map with
  | nil => rfl
  | cons l ls ih => simp only [maskLines, ih, List.map_cons]

theorem lines_mask (text : Text) : (mask text).2.lines = text.lines.map maskLine := by
  change (Text.unlines (maskLines .empty text.lines).2).lines = text.lines.map maskLine
  rw [maskLines_snd]
  apply Text.lines_unlines_map
  intro line hl
  exact newline_notMem_maskLine (Text.newline_notMem_of_mem_lines text hl)

/-- A magic line of the document comes back, and any other line was not changed on the way there. -/
theorem restoredLine_maskLine {ls : List Text} {line : Text} (h : line ∈ ls) :
    restoredLine ls (maskLine line) = restoredLine ls line := by
  cases hm : isMagic line with
  | true =>
    obtain ⟨rest, rfl⟩ := isMagic_iff.mp hm
    rw [maskLine, restoredLine_comment h, restoredLine_of_head (by simp)]
  | false => rw [maskLine_of_not_isMagic hm]

theorem map_restoredLine_eq_self_iff {ls : List Text} :
    ls.map (restoredLine ls) = ls ↔ ∀ rest, '%' :: rest ∈ ls → '#' :: rest ∉ ls := by
  constructor
  · intro h rest hmagic hcomment
    have hself := List.map_inj_left.mp (h.trans (List.map_id' ls).symm) _ hcomment
    rw [restoredLine, if_pos (List.contains_iff_mem.mpr hmagic)] at hself
    exact absurd (List.cons.inj hself).1 (by decide)
  · intro h
    apply (List.map_congr_left _).trans (List.map_id' ls)
    intro line hl
    unfold restoredLine
    split
    · rename_i rest
      rw [if_neg fun hmagic => h rest (List.contains_iff_mem.mp hmagic) hl]
    · rfl

/-- **Masking and restoring.** Of the lines of a text, exactly the comments that look like a magic
line of the text masked come back changed, namely as that magic line. So a text comes back as it was
if and only if it has no such comment. -/
theorem unmask_mask_eq_iff (text : Text) :
    (unmask (mask text).1 (mask text).2).lines = text.lines.map (restoredLine text.lines) ∧
    (unmask (mask text).1 (mask text).2 = text ↔
      ∀ rest, '%' :: rest ∈ text.lines → '#' :: rest ∉ text.lines) := by
  have hlines : (unmask (mask text).1 (mask text).2).lines =
      text.lines.map (restoredLine text.lines) := by
    rw [lines_unmask_mask, lines_mask, List.map_map]
    exact List.map_congr_left fun line hl => restoredLine_maskLine hl
  refine ⟨hlines, ?_⟩
  rw [← map_restoredLine_eq_self_iff]
  constructor
  · intro h
    rw [← hlines, h]
  · intro h
    rw [← Text.unlines_lines (unmask _ _), hlines, h, Text.unlines_lines]

/-- The comment becomes a second copy of the magic line. -/
theorem unmask_mask_ne :
    unmask (mask ['%', 'm', '\n', '#', 'm']).1 (mask ['%', 'm', '\n', '#', 'm']).2 ≠
      ['%', 'm', '\n', '#', 'm'] := by
  decide

/-! ## Texts that were changed meanwhile -/

theorem restoredLine_restoredLine (ls : List Text) (line : Text) :
    restoredLine ls (restoredLine ls line) = restoredLine ls line := by
  by_cases hhead : line.head? = some '#'
  · obtain ⟨rest, rfl⟩ := List.head?_eq_some_iff.mp hhead
    by_cases hmagic : ls.contains ('%' :: rest)
    · rw [restoredLine, if_pos hmagic, restoredLine_of_head (by simp)]
    · rw [restoredLine, if_neg hmagic, restoredLine, if_neg hmagic]
  · rw [restoredLine_of_head hhead, restoredLine_of_head hhead]

theorem restoredLine_of_notMem {ls : List Text} {line : Text}
    (h : ∀ rest, line = '#' :: rest → '%' :: rest ∉ ls) : restoredLine ls line = line := by
  unfold restoredLine
  split
  · rename_i rest
    rw [if_neg fun hmagic => h rest rfl (List.contains_iff_mem.mp hmagic)]
  · rfl

/-- A text that was restored once has nothing left to restore. -/
theorem unmask_unmask_mask (text other : Text) :
    unmask (mask text).1 (unmask (mask text).1 other) = unmask (mask text).1 other := by
  have htwice : restoredLine text.lines ∘ restoredLine text.lines = restoredLine text.lines :=
    funext fun line => restoredLine_restoredLine text.lines line
  rw [← Text.unlines_lines (unmask _ (unmask _ _)), lines_unmask_mask, lines_unmask_mask,
    List.map_map, htwice, ← lines_unmask_mask, Text.unlines_lines]

/-- **Restoring a changed text.** Whatever became of the masked text, restoring it keeps its lines
apart from the comments that are a magic line of the first text but for the first character, and
these become that magic line. So a second restoring changes nothing, and a magic line comes back at
every place where its masked form stands. -/
theorem unmask_edited (text other : Text) :
    let restored := unmask (mask text).1 other
    restored.lines.length = other.lines.length ∧
    (∀ (k : Nat) (line : Text), other.lines[k]? = some line →
      (∀ rest, line = '#' :: rest → '%' :: rest ∈ text.lines →
        restored.lines[k]? = some ('%' :: rest)) ∧
      ((∀ rest, line = '#' :: rest → '%' :: rest ∉ text.lines) → restored.lines[k]? = some line)) ∧
    unmask (mask text).1 restored = restored ∧
    ∀ line ∈ text.lines, isMagic line = true →
      ∀ k : Nat, other.lines[k]? = some (maskLine line) → restored.lines[k]? = some line := by
  have hline : ∀ (k : Nat) (line : Text), other.lines[k]? = some line →
      (unmask (mask text).1 other).lines[k]? = some (restoredLine text.lines line) := by
    intro k line hk
    rw [lines_unmask_mask, List.getElem?_map, hk, Option.map_some]
  refine ⟨?_, fun k line hk => ⟨?_, fun hplain => ?_⟩, unmask_unmask_mask text other, ?_⟩
  · rw [lines_unmask_mask, List.length_map]
  · rintro rest rfl hmagic
    rw [hline k _ hk, restoredLine_comment hmagic]
  · rw [hline k line hk, restoredLine_of_notMem hplain]
  · intro line hmem hmagic k hk
    obtain ⟨rest, rfl⟩ := isMagic_iff.mp hmagic
    rw [hline k _ hk, maskLine, restoredLine_comment hmem]

/-- The magic line was moved behind a new line and before a new comment. -/
theorem unmask_edited_moved :
    Text.lines ['y', '\n', '#', 'm', '\n', '#', 'n'] = [['y'], ['#', 'm'], ['#', 'n']] ∧
      (unmask (mask ['%', 'm', '\n', 'x']).1 ['y', '\n', '#', 'm', '\n', '#', 'n']).lines[1]? =
        some ['%', 'm'] ∧
      (unmask (mask ['%', 'm', '\n', 'x']).1 ['y', '\n', '#', 'm', '\n', '#', 'n']).lines[2]? =
        some ['#', 'n'] := by
  obtain ⟨-, hlines, -, hmagic⟩ :=
    unmask_edited ['%', 'm', '\n', 'x'] ['y', '\n', '#', 'm', '\n', '#', 'n']
  refine ⟨by decide, hmagic ['%', 'm'] (by decide) rfl 1 (by decide), ?_⟩
  refine (hlines 2 ['#', 'n'] (by decide)).2 ?_
  rintro rest ⟨⟩
  decide

end TidyImports
