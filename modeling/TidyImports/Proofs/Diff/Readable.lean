import TidyImports.Proofs.Command.Steps
import TidyImports.Proofs.Diff.Hunks
import TidyImports.Proofs.Text.Printed

/-!
# Diffs that can be read

A diff is printed in pieces, one behind the other, and read by lines.

* `Diff.Readable` — the lines of a printed text are the lines of a diff, and the lines of both
  versions spell their parts of them;
* `Diff.readable_iff` — which diffs can be read without their terminal codes, whatever takes these
  out by the laws of `Text.DropsCodes`;
* `Diff.readable_of_ended` — versions whose lines all end with a line feed have such a diff;
* `Command.deliver_readable_iff` — what `format --diff` prints of two versions.
-/

namespace TidyImports

open Text

namespace Diff

/-! ## Hunks by lines -/

/-- The lines of a hunk: its head, and each line without its line feed behind its mark. -/
def Hunk.shown (h : Hunk) : List Text := h.head :: h.lines.map fun l => l.1.char :: bare l.2

/-- The lines of all hunks between two versions. -/
def shownLines (before after : Text) : List MarkedLine := (hunksOf before after).flatMap Hunk.lines

/-- The printed text has the lines of the diff: the names of both versions, without the codes that
`strip` takes out of them, then the hunks between them. Every line that is kept, removed or added
has a line of its own, and in each hunk the lines of the first version spell a part of it, as do
the lines of the second. -/
structure Readable (strip : Text → Text) (before after : Text) (name : String) (printed : Text) :
    Prop where
  own : OwnLines (lines (strip s!"--- a/{name}\n+++ b/{name}".toList) ++
    (hunksOf before after).flatMap Hunk.shown) printed
  shows : Shows 0 0 (hunksOf before after) (cut before) (cut after)
  old : ∀ h ∈ hunksOf before after, OwnLines (h.old.map bare) h.old.flatten
  new : ∀ h ∈ hunksOf before after, OwnLines (h.new.map bare) h.new.flatten

theorem Mark.char_ne (mark : Mark) : mark.char ≠ '\n' := by cases mark <;> decide

theorem Mark.outsideCodes_char (mark : Mark) : outsideCodes mark.char = true := by
  cases mark <;> decide

/-! ## Heads -/

/-- The text has characters of heads only. -/
def InHead (text : String) : Prop :=
  text.toList.all (fun c => c.isDigit || [' ', '+', ',', '-', '@'].contains c) = true

theorem InHead.append {a b : String} (ha : InHead a) (hb : InHead b) : InHead (a ++ b) := by
  rw [InHead, String.toList_append, List.all_append, ha, hb, Bool.and_self]

theorem inHead_toString (n : Nat) : InHead (toString n) := by
  rw [InHead, List.all_eq_true]
  intro c hc
  rw [show toString n = n.repr from rfl, Nat.toList_repr] at hc
  rw [Nat.isDigit_of_mem_toDigits (by decide) (by decide) hc, Bool.true_or]

theorem inHead_span (a b : Nat) : InHead (span a b) := by
  have hcomma : InHead "," := rfl
  have hpair : ∀ m n : Nat, InHead s!"{m},{n}" := fun m n =>
    ((inHead_toString m).append hcomma).append (inHead_toString n)
  unfold span
  dsimp only
  split
  · exact inHead_toString _
  · split
    · exact hpair _ _
    · exact hpair _ _

theorem Hunk.inHead_head (h : Hunk) : InHead (String.ofList h.head) := by
  have hfront : InHead "@@ -" := rfl
  have hmiddle : InHead " +" := rfl
  have hend : InHead " @@" := rfl
  have hhead : ∀ {old new : String}, InHead old → InHead new → InHead s!"@@ -{old} +{new} @@" :=
    fun hold hnew => (((hfront.append hold).append hmiddle).append hnew).append hend
  rw [Hunk.head, String.ofList_toList]
  exact hhead (inHead_span _ _) (inHead_span _ _)

theorem Hunk.notMem_head (h : Hunk) {c : Char}
    (hc : (c.isDigit || [' ', '+', ',', '-', '@'].contains c) = false) : c ∉ h.head := by
  have hhead := h.inHead_head
  rw [InHead, String.toList_ofList, List.all_eq_true] at hhead
  intro hmem
  rw [hhead c hmem] at hc
  cases hc

theorem Hunk.newline_notMem_head (h : Hunk) : '\n' ∉ h.head := h.notMem_head rfl

theorem Hunk.strip_head {strip : Text → Text} (hstrip : DropsCodes strip) (h : Hunk) :
    strip (h.head ++ ['\n']) = h.head ++ ['\n'] := by
  apply hstrip.self
  simp [h.notMem_head (c := '\x1b') rfl]

/-! ## Pieces -/

section

variable {mark : Mark} {line : Text}

theorem ended_mark : Ended (mark.char :: line) ↔ Ended line := by
  cases line with
  | nil => simp [Ended, mark.char_ne]
  | cons => simp [Ended]

theorem bare_mark : bare (mark.char :: line) = mark.char :: bare line := by
  by_cases h : Ended line
  · rw [bare, if_pos (ended_mark.mpr h), bare, if_pos h, List.dropLast_cons_of_ne_nil]
    rintro rfl
    cases h
  · rw [bare, if_neg (ended_mark.not.mpr h), bare, if_neg h]

theorem strip_mark_eq_iff {strip : Text → Text} (hstrip : DropsCodes strip) :
    strip (mark.char :: line) = mark.char :: line ↔ strip line = line := by
  rw [hstrip.cons mark.outsideCodes_char, List.cons.injEq]
  exact and_iff_right rfl

theorem piece_mark (h : '\n' ∉ line.dropLast) : Piece (mark.char :: line) where
  front := ⟨_, _, rfl, mark.outsideCodes_char, mark.char_ne⟩
  newline := newline_notMem_dropLast_cons mark.char_ne h

end

theorem Hunk.exists_head_eq (h : Hunk) : ∃ rest, h.head = '@' :: rest := by
  have hat : (toString "@@ -").toList = ['@', '@', ' ', '-'] := rfl
  simp [Hunk.head, hat]

theorem Hunk.piece_head (h : Hunk) : Piece (h.head ++ ['\n']) where
  front := by
    obtain ⟨rest, hrest⟩ := h.exists_head_eq
    exact ⟨'@', rest ++ ['\n'], by rw [hrest, List.cons_append], by decide, by decide⟩
  newline := by
    rw [List.dropLast_concat]
    exact h.newline_notMem_head

theorem Hunk.map_bare_parts (h : Hunk) : h.parts.map bare = h.shown := by
  simp only [Hunk.parts, Hunk.shown, List.map_cons, bare_concat, List.map_map, Function.comp_def,
    bare_mark]

theorem Hunk.piece_of_mem_parts {h : Hunk} (hlines : ∀ l ∈ h.lines, '\n' ∉ l.2.dropLast)
    {piece : Text} (hpiece : piece ∈ h.parts) : Piece piece := by
  rcases List.mem_cons.mp hpiece with rfl | hpiece
  · exact h.piece_head
  · obtain ⟨l, hl, rfl⟩ := List.mem_map.mp hpiece
    exact piece_mark (hlines l hl)

/-- What marks do not change holds of the lines of a hunk as it does of their texts. -/
theorem Hunk.forall_parts_iff {P : Text → Prop} (h : Hunk) (hhead : P (h.head ++ ['\n']))
    (hmark : ∀ {mark : Mark} {line : Text}, P (mark.char :: line) ↔ P line) :
    (∀ p ∈ h.parts, P p) ↔ ∀ l ∈ h.lines, P l.2 := by
  rw [Hunk.parts, List.forall_mem_cons, List.forall_mem_map]
  simp only [hmark]
  exact and_iff_right hhead

theorem shows_lines_ne_nil {a b : Nat} {hunks : List Hunk} {before after : List Text}
    (h : Shows a b hunks before after) : ∀ h ∈ hunks, h.lines ≠ [] := by
  induction h with
  | rest => exact nofun
  | hunk _ hlines _ _ _ ih => exact List.forall_mem_cons.mpr ⟨hlines, ih⟩

/-- Only a line of the last hunk can be printed last. -/
theorem ended_dropLast_parts_iff {hunks : List Hunk} (hlines : ∀ h ∈ hunks, h.lines ≠ []) :
    (∀ p ∈ (hunks.flatMap Hunk.parts).dropLast, Ended p) ↔
      ∀ l ∈ (hunks.flatMap Hunk.lines).dropLast, Ended l.2 := by
  induction hunks with
  | nil => simp
  | cons h rest ih =>
    have hfirst := hlines h List.mem_cons_self
    have ih := ih fun g hg => hlines g (List.mem_cons_of_mem _ hg)
    rw [List.flatMap_cons, List.flatMap_cons]
    cases rest with
    | nil =>
      rw [List.flatMap_nil, List.flatMap_nil, List.append_nil, List.append_nil, Hunk.parts,
        List.dropLast_cons_of_ne_nil (by simp [hfirst]), ← List.map_dropLast,
        List.forall_mem_cons, List.forall_mem_map]
      simp only [ended_mark]
      exact and_iff_right (ended_concat _)
    | cons g more =>
      have hg := hlines g (by simp)
      rw [List.dropLast_append_of_ne_nil (by simp [Hunk.parts]),
        List.dropLast_append_of_ne_nil (by simp [hg]), List.forall_mem_append,
        List.forall_mem_append, ih, h.forall_parts_iff (ended_concat _) ended_mark]

/-! ## Diffs -/

section

variable {before after : Text}

theorem newline_notMem_of_mem_hunksOf {h : Hunk} (hh : h ∈ hunksOf before after) {l : MarkedLine}
    (hl : l ∈ h.lines) : '\n' ∉ l.2.dropLast :=
  (mem_cut_of_mem_hunksOf hh hl).elim newline_notMem_dropLast_of_mem_cut
    newline_notMem_dropLast_of_mem_cut

theorem strip_unifiedDiff {strip : Text → Text} (hstrip : DropsCodes strip) (h : before ≠ after)
    (name : String) :
    strip (unifiedDiff before after name) =
      strip s!"--- a/{name}\n+++ b/{name}".toList ++
        '\n' :: strip ((hunksOf before after).flatMap Hunk.parts).flatten := by
  have htext : (hunksOf before after).flatMap Hunk.text =
      ((hunksOf before after).flatMap Hunk.parts).flatten := by
    rw [← List.flatMap_id, List.flatMap_assoc]
    simp only [List.flatMap_id]
    rfl
  rw [unifiedDiff_eq h, hstrip.append (by decide), htext]

theorem piece_of_mem_parts {piece : Text} (h : piece ∈ (hunksOf before after).flatMap Hunk.parts) :
    Piece piece := by
  obtain ⟨g, hg, hpiece⟩ := List.mem_flatMap.mp h
  exact Hunk.piece_of_mem_parts (fun _ => newline_notMem_of_mem_hunksOf hg) hpiece

theorem forall_shownLines_iff {P : Text → Prop} (hhead : ∀ h : Hunk, P (h.head ++ ['\n']))
    (hmark : ∀ {mark : Mark} {line : Text}, P (mark.char :: line) ↔ P line) :
    (∀ p ∈ (hunksOf before after).flatMap Hunk.parts, P p) ↔
      ∀ l ∈ shownLines before after, P l.2 := by
  rw [shownLines, List.forall_mem_flatMap, List.forall_mem_flatMap]
  exact forall₂_congr fun h _ => h.forall_parts_iff (hhead h) hmark

theorem strip_shownLines_iff {strip : Text → Text} (hstrip : DropsCodes strip) :
    (∀ p ∈ (hunksOf before after).flatMap Hunk.parts, strip p = p) ↔
      ∀ l ∈ shownLines before after, strip l.2 = l.2 :=
  forall_shownLines_iff (Hunk.strip_head hstrip) (strip_mark_eq_iff hstrip)

theorem ended_shownLines_iff :
    (∀ p ∈ (hunksOf before after).flatMap Hunk.parts, Ended p) ↔
      ∀ l ∈ shownLines before after, Ended l.2 :=
  forall_shownLines_iff (fun _ => ended_concat _) ended_mark

theorem ended_dropLast_shownLines_iff :
    (∀ p ∈ ((hunksOf before after).flatMap Hunk.parts).dropLast, Ended p) ↔
      ∀ l ∈ (shownLines before after).dropLast, Ended l.2 :=
  ended_dropLast_parts_iff (shows_lines_ne_nil (shows_hunksOf before after))

theorem ownLines_unifiedDiff_iff {strip : Text → Text} (hstrip : DropsCodes strip)
    (h : before ≠ after) (name : String) :
    OwnLines (lines (strip s!"--- a/{name}\n+++ b/{name}".toList) ++
        (hunksOf before after).flatMap Hunk.shown) (strip (unifiedDiff before after name)) ↔
      (∀ l ∈ (shownLines before after).dropLast, Ended l.2) ∧
        ∀ l ∈ shownLines before after, strip l.2 = l.2 := by
  have hshown : (hunksOf before after).flatMap Hunk.shown =
      ((hunksOf before after).flatMap Hunk.parts).map bare := by
    simp only [List.map_flatMap, Hunk.map_bare_parts]
  rw [strip_unifiedDiff hstrip h, ownLines_newline_append_iff, hshown,
    hstrip.ownLines_iff fun _ => piece_of_mem_parts, ended_dropLast_shownLines_iff,
    strip_shownLines_iff hstrip]

theorem ownLines_part {part : List Text} (hpart : part.Sublist ((shownLines before after).map (·.2)))
    (hended : ∀ l ∈ (shownLines before after).dropLast, Ended l.2) :
    OwnLines (part.map bare) part.flatten := by
  apply ownLines_flatten
  · intro line hline
    obtain ⟨l, hl, rfl⟩ := List.mem_map.mp (hpart.subset hline)
    obtain ⟨h, hh, hl⟩ := List.mem_flatMap.mp hl
    exact newline_notMem_of_mem_hunksOf hh hl
  · intro line hline
    have hdrop : part.dropLast.Sublist ((shownLines before after).map (·.2)).dropLast := by
      have htail := hpart.reverse.tail
      rwa [List.tail_reverse, List.tail_reverse, List.reverse_sublist] at htail
    rw [← List.map_dropLast] at hdrop
    obtain ⟨l, hl, rfl⟩ := List.mem_map.mp (hdrop.subset hline)
    exact hended l hl

/-- A diff can be read without its terminal codes exactly when all its lines end with a line feed,
up to the last one, and hold no codes. -/
theorem readable_iff {strip : Text → Text} (hstrip : DropsCodes strip) (h : before ≠ after)
    (name : String) :
    Readable strip before after name (strip (unifiedDiff before after name)) ↔
      (∀ l ∈ (shownLines before after).dropLast, Ended l.2) ∧
        ∀ l ∈ shownLines before after, strip l.2 = l.2 := by
  rw [← ownLines_unifiedDiff_iff hstrip h name]
  constructor
  · exact Readable.own
  · intro hown
    have hended := ((ownLines_unifiedDiff_iff hstrip h name).mp hown).1
    have hsublist : ∀ g ∈ hunksOf before after,
        (g.lines.map (·.2)).Sublist ((shownLines before after).map (·.2)) := by
      intro g hg
      rw [shownLines, List.flatMap_def]
      exact (List.sublist_flatten_of_mem (List.mem_map_of_mem hg)).map _
    refine ⟨hown, shows_hunksOf before after, fun g hg => ?_, fun g hg => ?_⟩
    · exact ownLines_part ((List.filter_sublist.map _).trans (hsublist g hg)) hended
    · exact ownLines_part ((List.filter_sublist.map _).trans (hsublist g hg)) hended

/-- A readable diff ends its last line exactly when all its lines end with a line feed. -/
theorem Readable.ended_iff {strip : Text → Text} (hstrip : DropsCodes strip) {name : String}
    (h : before ≠ after)
    (hreadable : Readable strip before after name (strip (unifiedDiff before after name))) :
    Ended (strip (unifiedDiff before after name)) ↔ ∀ l ∈ shownLines before after, Ended l.2 := by
  obtain ⟨hended, hcodes⟩ := (readable_iff hstrip h name).mp hreadable
  rw [← ended_dropLast_shownLines_iff] at hended
  rw [← strip_shownLines_iff hstrip] at hcodes
  have hparts : (hunksOf before after).flatMap Hunk.parts ≠ [] := by
    obtain ⟨g, more, hhunks⟩ := List.exists_cons_of_ne_nil (hunksOf_ne_nil h)
    simp [hhunks, Hunk.parts]
  have hflatten := flatten_ne_nil (fun _ => piece_of_mem_parts) hparts
  rw [strip_unifiedDiff hstrip h, hstrip.flatten_eq_self (fun _ => piece_of_mem_parts) hcodes,
    ← List.singleton_append, ← List.append_assoc, ended_append_iff _ hflatten,
    ended_flatten_iff (fun _ => piece_of_mem_parts) hparts hended, ended_shownLines_iff]

/-- Versions without terminal codes whose lines all end with a line feed have a readable diff. -/
theorem readable_of_ended {strip : Text → Text} (hstrip : DropsCodes strip) (h : before ≠ after)
    (name : String) (hended : ∀ line ∈ cut before ++ cut after, Ended line)
    (hcodes : '\x1b' ∉ before ++ after) :
    Readable strip before after name (strip (unifiedDiff before after name)) := by
  have hline : ∀ l ∈ shownLines before after, l.2 ∈ cut before ++ cut after := by
    intro l hl
    obtain ⟨g, hg, hl⟩ := List.mem_flatMap.mp hl
    exact List.mem_append.mpr (mem_cut_of_mem_hunksOf hg hl)
  rw [readable_iff hstrip h]
  constructor
  · intro l hl
    exact hended _ (hline l (List.dropLast_subset _ hl))
  · intro l hl
    apply hstrip.self
    intro hmem
    apply hcodes
    rw [← flatten_cut before, ← flatten_cut after, ← List.flatten_append]
    exact List.mem_flatten_of_mem (hline l hl) hmem

end

end Diff

/-! ## What is printed of two versions -/

namespace Command

variable {ρ : Type} {o : FormatOptions} {r : FileReport}

theorem outcome_deliver_diff (hdiff : o.diff = true) (hjson : o.json = false)
    (hfailure : r.failure = none) (hchanged : r.before ≠ r.after) (s : Session (World ρ)) :
    outcome (deliver o r) s = (.ok r, { s with world := { s.world with
      output := s.world.output ++ (unifiedDiff r.before r.after r.path).withoutCodes } }) := by
  have hwrites : o.writes = false := by simp [FormatOptions.writes, hdiff]
  have hdiffers : r.changed = true := by simpa [FileReport.changed] using hchanged
  unfold deliver
  simp only [hfailure, hwrites, hdiff, hdiffers, hjson, Bool.and_false, Bool.false_and,
    Bool.false_eq_true, Bool.and_self, Bool.not_false, ↓reduceIte]
  rfl

/-- What is printed of two different versions can be read exactly when the lines that are shown end
with a line feed, up to the last one, and hold no terminal codes. What is printed next begins a line
of its own when the last one ends with a line feed too. -/
theorem deliver_readable_iff (hdiff : o.diff = true) (hjson : o.json = false)
    (hfailure : r.failure = none) (hchanged : r.before ≠ r.after) (s : Session (World ρ)) :
    ∃ printed, outcome (deliver o r) s = (.ok r, { s with world := { s.world with
        output := s.world.output ++ printed } }) ∧
      (Diff.Readable withoutCodes r.before r.after r.path printed ↔
        (∀ l ∈ (Diff.shownLines r.before r.after).dropLast, Ended l.2) ∧
          ∀ l ∈ Diff.shownLines r.before r.after, withoutCodes l.2 = l.2) ∧
      (Diff.Readable withoutCodes r.before r.after r.path printed →
        (Ended printed ↔ ∀ l ∈ Diff.shownLines r.before r.after, Ended l.2)) :=
  ⟨_, outcome_deliver_diff hdiff hjson hfailure hchanged s,
    Diff.readable_iff dropsCodes_withoutCodes hchanged r.path,
    Diff.Readable.ended_iff dropsCodes_withoutCodes hchanged⟩

/-- Two versions of a file. -/
def versions (before after : String) : FileReport :=
  { path := "m.py", before := before.toList, after := after.toList }

/-- Nothing was printed so far. -/
def silent : Session (World Unit) := .start
  { disk := ⟨[], []⟩, env := [], input := [], output := [], errors := [], linter := () }

/-- Both lines of both versions end with a line feed. -/
theorem deliver_readable_iff_swapped :
    let r := versions "import b\nimport a\n" "import a\nimport b\n"
    ∃ printed, outcome (deliver { paths := ["m.py"], diff := true } r) silent =
        (.ok r, { silent with world := { silent.world with output := printed } }) ∧
      Diff.Readable withoutCodes r.before r.after r.path printed ∧ Ended printed := by
  intro r
  obtain ⟨printed, hprinted, hreadable, hended⟩ :=
    deliver_readable_iff (o := { paths := ["m.py"], diff := true }) (r := r) rfl rfl rfl
      (by decide) silent
  have hlines := hreadable.mpr (by decide +kernel)
  exact ⟨printed, hprinted, hlines, (hended hlines).mpr (by decide +kernel)⟩

/-- The only line of the first version does not end with a line feed, and the line behind it is
printed on the same line. -/
theorem deliver_unended :
    ∃ printed, printed =
        "--- a/m.py\n+++ b/m.py\n@@ -1 +1,2 @@\n-import b, a+import a\n+import b\n".toList ∧
      outcome (deliver { paths := ["m.py"], diff := true }
          (versions "import b, a" "import a\nimport b\n")) silent =
        (.ok (versions "import b, a" "import a\nimport b\n"),
          { silent with world := { silent.world with output := printed } }) ∧
      ¬ Diff.Readable withoutCodes "import b, a".toList "import a\nimport b\n".toList "m.py"
        printed := by
  have hchanged : "import b, a".toList ≠ "import a\nimport b\n".toList := by decide
  refine ⟨(unifiedDiff "import b, a".toList "import a\nimport b\n".toList "m.py").withoutCodes,
    by decide +kernel, outcome_deliver_diff rfl rfl rfl hchanged silent, ?_⟩
  rw [Diff.readable_iff dropsCodes_withoutCodes hchanged]
  decide +kernel

end Command

end TidyImports
