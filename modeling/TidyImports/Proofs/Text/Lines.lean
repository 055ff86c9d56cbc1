import TidyImports.Text.Basic

/-!
# Lines of joined texts

* `newline_notMem_of_mem_lines`: a line holds no line feed;
* `unlines_append_cons`: lines that are cut inside one of them are joined from both parts;
* `lines_append`: the last line of a text and the first line of the text behind it become one;
* `lines_unlines_flatMap`: texts that are joined have the lines of each of them;
* `lines_unlines_map`: a text that is changed line by line has the changed lines.
-/

namespace TidyImports.Text

theorem sep_notMem_of_mem_splitAt {sep : Char} {text piece : Text} (h : piece ∈ splitAt sep text) :
    sep ∉ piece := by
  induction text generalizing piece with
  | nil =>
    rw [splitAt, List.mem_singleton] at h
    simp [h]
  | cons c rest ih =>
    by_cases hc : c = sep
    · rw [splitAt, if_pos hc] at h
      rcases List.mem_cons.mp h with rfl | h
      · simp
      · exact ih h
    · rw [splitAt, if_neg hc] at h
      cases hs : splitAt sep rest with
      | nil => exact absurd hs (splitAt_ne_nil sep rest)
      | cons p ps =>
        rw [hs] at h ih
        rcases List.mem_cons.mp h with rfl | h
        · have hp := ih List.mem_cons_self
          simp [Ne.symm hc, hp]
        · exact ih (List.mem_cons_of_mem _ h)

theorem newline_notMem_of_mem_lines (text : Text) {line : Text} (h : line ∈ lines text) :
    '\n' ∉ line :=
  sep_notMem_of_mem_splitAt h

theorem lines_ne_nil (text : Text) : lines text ≠ [] := splitAt_ne_nil '\n' text

theorem exists_lines_eq_cons (text : Text) : ∃ l ls, lines text = l :: ls :=
  List.exists_cons_of_ne_nil (lines_ne_nil text)

theorem exists_lines_eq_snoc (text : Text) : ∃ ls l, lines text = ls ++ [l] :=
  ⟨_, _, (List.dropLast_concat_getLast (lines_ne_nil text)).symm⟩

theorem unlines_cons {l : Text} {ls : List Text} (h : ls ≠ []) :
    unlines (l :: ls) = l ++ '\n' :: unlines ls := by
  rw [unlines, joinWith_cons h, List.append_assoc, List.singleton_append, ← unlines]

theorem unlines_append_cons (xs : List Text) (a b : Text) (ys : List Text) :
    unlines (xs ++ (a ++ b) :: ys) = unlines (xs ++ [a]) ++ unlines (b :: ys) := by
  induction xs with
  | nil => cases ys <;> simp [unlines, joinWith]
  | cons x xs ih =>
    simp only [unlines, List.cons_append] at ih ⊢
    rw [joinWith_cons (by simp), joinWith_cons (by simp), ih]
    simp only [List.append_assoc]

theorem lines_append {a b x y : Text} {xs ys : List Text} (ha : lines a = xs ++ [x])
    (hb : lines b = y :: ys) : lines (a ++ b) = xs ++ (x ++ y) :: ys := by
  have hjoin : a ++ b = unlines (xs ++ (x ++ y) :: ys) := by
    rw [unlines_append_cons, ← ha, ← hb, unlines_lines, unlines_lines]
  rw [hjoin]
  apply lines_unlines (by simp)
  intro l hl
  rcases List.mem_append.mp hl with hl | hl
  · exact newline_notMem_of_mem_lines a (by simp [ha, hl])
  · rcases List.mem_cons.mp hl with rfl | hl
    · have hx : '\n' ∉ x := newline_notMem_of_mem_lines a (by simp [ha])
      have hy : '\n' ∉ y := newline_notMem_of_mem_lines b (by simp [hb])
      simp [hx, hy]
    · exact newline_notMem_of_mem_lines b (by simp [hb, hl])

theorem lines_append_newline (a b : Text) : lines (a ++ '\n' :: b) = lines a ++ lines b := by
  obtain ⟨xs, x, ha⟩ := exists_lines_eq_snoc a
  have hb : lines ('\n' :: b) = [] :: lines b := by rw [lines, splitAt, if_pos rfl, ← lines]
  rw [lines_append ha hb, ha, List.append_nil, List.append_assoc, List.singleton_append]

theorem lines_unlines_flatMap {texts : List Text} (h : texts ≠ []) :
    lines (unlines texts) = texts.flatMap lines := by
  induction texts with
  | nil => exact absurd rfl h
  | cons text rest ih =>
    by_cases hrest : rest = []
    · subst hrest
      rw [unlines, joinWith, List.flatMap_singleton]
    · rw [unlines_cons hrest, lines_append_newline, ih hrest, List.flatMap_cons]

theorem lines_unlines_map {text : Text} {f : Text → Text}
    (h : ∀ line ∈ lines text, '\n' ∉ f line) :
    lines (unlines ((lines text).map f)) = (lines text).map f := by
  apply lines_unlines
  · rw [ne_eq, List.map_eq_nil_iff]
    exact lines_ne_nil text
  · intro changed hc
    obtain ⟨line, hl, rfl⟩ := List.mem_map.mp hc
    exact h line hl

end TidyImports.Text
