import TidyImports.Diff.Unified
import TidyImports.Proofs.Diff.Match

/-!
# Hunks tell of all changes

A script takes the lines of both lists in order, and its hunks leave out nothing but common lines.

* `Tiles` — steps from two places on to two others, each sound (`tiles_script`);
* `Grouped` — steps in groups, with common lines between them (`grouped_hunks`);
* `Hunk` — a group as it is shown: where it begins, and its lines behind their marks;
* `Shows` — hunks show one list and what becomes of it (`shows_hunksOf`);
* `unifiedDiff_eq` — a unified diff is a head and the texts of these hunks.
-/

namespace TidyImports.Diff

/-! ## Stretches of lines -/

/-- The lines from one place to before another. -/
def stretch (ls : List Text) (start stop : Nat) : List Text := (ls.drop start).take (stop - start)

section

variable {ls left right : List Text} {a b c : Nat}

theorem length_stretch (h : b ≤ ls.length) : (stretch ls a b).length = b - a := by
  simp only [stretch, List.length_take, List.length_drop]
  omega

theorem stretch_self : stretch ls a a = [] := by simp [stretch]

theorem stretch_append_drop (h : a ≤ b) : stretch ls a b ++ ls.drop b = ls.drop a := by
  have hdrop : ls.drop b = (ls.drop a).drop (b - a) := by
    rw [List.drop_drop, Nat.add_sub_cancel' h]
  rw [stretch, hdrop, List.take_append_drop]

theorem stretch_append (hab : a ≤ b) (hbc : b ≤ c) :
    stretch ls a b ++ stretch ls b c = stretch ls a c := by
  have hdrop : ls.drop b = (ls.drop a).drop (b - a) := by
    rw [List.drop_drop, Nat.add_sub_cancel' hab]
  rw [stretch, stretch, stretch, hdrop, show c - a = (b - a) + (c - b) by omega, List.take_add]

theorem mem_of_mem_stretch {line : Text} (h : line ∈ stretch ls a b) : line ∈ ls :=
  List.mem_of_mem_drop (List.mem_of_mem_take h)

/-- As many lines from one place of the first list on as from one of the second are the same. -/
def Alike (left right : List Text) (a b n : Nat) : Prop := ∀ k < n, left[a + k]? = right[b + k]?

variable {n : Nat}

theorem Alike.stretch_eq (h : Alike left right a b n) :
    stretch left a (a + n) = stretch right b (b + n) := by
  apply List.ext_getElem?
  intro k
  simp only [stretch, Nat.add_sub_cancel_left, List.getElem?_take, List.getElem?_drop]
  split
  · rename_i hk
    exact h k hk
  · rfl

theorem Alike.part (h : Alike left right a b n) {i m : Nat} (him : i + m ≤ n) :
    Alike left right (a + i) (b + i) m := by
  intro k hk
  have := h (i + k) (by omega)
  rwa [← Nat.add_assoc, ← Nat.add_assoc] at this

theorem Alike.drop_eq (h : Alike left right a b n)
    (hrest : left.drop (a + n) = right.drop (b + n)) : left.drop a = right.drop b := by
  rw [← stretch_append_drop (Nat.le_add_right a n), ← stretch_append_drop (Nat.le_add_right b n),
    h.stretch_eq, hrest]

end

/-! ## Sound steps -/

/-- A step stays in both lists and is not empty; equal stretches are equal, and a stretch that is
deleted or inserted has nothing beside it. -/
structure Step.Sound (left right : List Text) (s : Step) : Prop where
  left_le : s.left ≤ s.leftStop
  leftStop_le : s.leftStop ≤ left.length
  right_le : s.right ≤ s.rightStop
  rightStop_le : s.rightStop ≤ right.length
  filled : s.left < s.leftStop ∨ s.right < s.rightStop
  equal : s.kind = .equal →
    s.leftStop - s.left = s.rightStop - s.right ∧ Alike left right s.left s.right s.size
  delete : s.kind = .delete → s.rightStop = s.right
  insert : s.kind = .insert → s.leftStop = s.left

/-- Steps that lead from two places to two others. -/
inductive Tiles (left right : List Text) : (a b : Nat) → List Step → (c d : Nat) → Prop
  | nil {a b : Nat} : Tiles left right a b [] a b
  | cons {s : Step} {rest : List Step} {c d : Nat} : s.Sound left right →
      Tiles left right s.leftStop s.rightStop rest c d →
      Tiles left right s.left s.right (s :: rest) c d

section

variable {left right : List Text} {a b c d e f : Nat} {s : Step} {steps more : List Step}

theorem Tiles.eq_of_nil (h : Tiles left right a b [] c d) : c = a ∧ d = b := by
  cases h
  exact ⟨rfl, rfl⟩

theorem tiles_one_iff : Tiles left right a b [s] c d ↔
    s.Sound left right ∧ a = s.left ∧ b = s.right ∧ c = s.leftStop ∧ d = s.rightStop := by
  constructor
  · intro h
    obtain _ | ⟨hs, hrest⟩ := h
    exact ⟨hs, rfl, rfl, hrest.eq_of_nil⟩
  · rintro ⟨hs, rfl, rfl, rfl, rfl⟩
    exact .cons hs .nil

theorem tiles_one (h : s.Sound left right) :
    Tiles left right s.left s.right [s] s.leftStop s.rightStop := .cons h .nil

theorem Tiles.append (h : Tiles left right a b steps c d) (h' : Tiles left right c d more e f) :
    Tiles left right a b (steps ++ more) e f := by
  induction h with
  | nil => exact h'
  | cons hs _ ih => exact .cons hs (ih h')

theorem Tiles.split (h : Tiles left right a b (steps ++ more) e f) :
    ∃ c d, Tiles left right a b steps c d ∧ Tiles left right c d more e f := by
  induction steps generalizing a b with
  | nil => exact ⟨a, b, .nil, h⟩
  | cons s rest ih =>
    obtain _ | ⟨hs, hrest⟩ := h
    obtain ⟨c, d, hfirst, hmore⟩ := ih hrest
    exact ⟨c, d, .cons hs hfirst, hmore⟩

theorem Tiles.le (h : Tiles left right a b steps c d) : a ≤ c ∧ b ≤ d := by
  induction h with
  | nil => exact ⟨Nat.le_refl _, Nat.le_refl _⟩
  | cons hs _ ih => exact ⟨Nat.le_trans hs.left_le ih.1, Nat.le_trans hs.right_le ih.2⟩

theorem Tiles.le_length (h : Tiles left right a b steps c d) (ha : a ≤ left.length)
    (hb : b ≤ right.length) : c ≤ left.length ∧ d ≤ right.length := by
  induction h with
  | nil => exact ⟨ha, hb⟩
  | cons hs _ ih => exact ih hs.leftStop_le hs.rightStop_le

theorem Tiles.le_length_of_ne_nil (h : Tiles left right a b steps c d) (hne : steps ≠ []) :
    c ≤ left.length ∧ d ≤ right.length := by
  cases h with
  | nil => exact absurd rfl hne
  | cons hs hrest => exact hrest.le_length hs.leftStop_le hs.rightStop_le

/-! ## The script -/

theorem tiles_change (hac : a ≤ c) (hc : c ≤ left.length) (hbd : b ≤ d) (hd : d ≤ right.length) :
    Tiles left right a b (change a c b d) c d := by
  unfold change
  split
  · rename_i h
    simp only [Bool.and_eq_true, decide_eq_true_eq] at h
    exact tiles_one (s := ⟨.replace, a, c, b, d⟩) ⟨hac, hc, hbd, hd, .inl h.1, nofun, nofun, nofun⟩
  · rename_i hnot
    simp only [Bool.and_eq_true, decide_eq_true_eq] at hnot
    split
    · rename_i h
      obtain rfl : b = d := by omega
      exact tiles_one (s := ⟨.delete, a, c, b, b⟩)
        ⟨hac, hc, hbd, hd, .inl h, nofun, fun _ => rfl, nofun⟩
    · obtain rfl : a = c := by omega
      split
      · rename_i h
        exact tiles_one (s := ⟨.insert, a, a, b, d⟩)
          ⟨hac, hc, hbd, hd, .inr h, nofun, nofun, fun _ => rfl⟩
      · obtain rfl : b = d := by omega
        exact .nil

theorem tiles_stepsFrom {bs : List Block}
    (h : Chained (.of left right) left.length right.length a b bs) :
    Tiles left right a b (stepsFrom left.length right.length a b bs) left.length right.length := by
  induction h with
  | nil ha hb => exact tiles_change ha (Nat.le_refl _) hb (Nat.le_refl _)
  | @cons a b block rest hsize hblock hrest ih =>
    have := hblock.le_highLeft
    have := hblock.le_highRight
    refine (tiles_change hblock.lowLeft_le (by omega) hblock.lowRight_le (by omega)).append ?_
    refine .cons (s := ⟨.equal, block.left, block.left + block.size, block.right,
      block.right + block.size⟩) ⟨?_, ?_, ?_, ?_, ?_, fun _ => ⟨?_, ?_⟩, nofun, nofun⟩ ih
    · exact Nat.le_add_right _ _
    · exact hblock.le_highLeft
    · exact Nat.le_add_right _ _
    · exact hblock.le_highRight
    · exact .inl (by dsimp only; omega)
    · dsimp only
      omega
    · intro k hk
      simp only [Step.size, Nat.add_sub_cancel_left] at hk
      obtain ⟨line, hleft, hright⟩ := sameLine_of_iff.mp (hblock.same k hk)
      exact hleft.trans hright.symm

theorem tiles_script (left right : List Text) :
    Tiles left right 0 0 (script left right) left.length right.length :=
  tiles_stepsFrom (blocks_chained left right)

/-! ## Shortened steps -/

/-- A stretch of equal lines. -/
def equalStep (a b n : Nat) : Step := ⟨.equal, a, a + n, b, b + n⟩

theorem sound_equalStep {n : Nat} (hn : 0 < n) (hleft : a + n ≤ left.length)
    (hright : b + n ≤ right.length) (h : Alike left right a b n) :
    (equalStep a b n).Sound left right where
  left_le := Nat.le_add_right a n
  leftStop_le := hleft
  right_le := Nat.le_add_right b n
  rightStop_le := hright
  filled := .inl (Nat.lt_add_of_pos_right hn)
  equal _ := by simpa [equalStep, Step.size] using h
  delete := nofun
  insert := nofun

theorem Step.Sound.exists_equalStep (h : s.Sound left right) (hkind : s.kind = .equal) :
    ∃ a b n, s = equalStep a b n ∧ 0 < n ∧ a + n ≤ left.length ∧ b + n ≤ right.length ∧
      Alike left right a b n := by
  obtain ⟨hsize, halike⟩ := h.equal hkind
  obtain ⟨hl, hl', hr, hr', hfilled, -, -, -⟩ := h
  obtain ⟨kind, a, aStop, b, bStop⟩ := s
  dsimp only at *
  subst hkind
  refine ⟨a, b, aStop - a, ?_, by omega, by omega, by omega, halike⟩
  simp only [equalStep, Step.mk.injEq, true_and]
  omega

theorem tail_equalStep (a b n : Nat) : (equalStep a b n).tail =
    equalStep (a + (n - context)) (b + (n - context)) (min n context) := by
  simp only [Step.tail, equalStep, ↓reduceIte, Step.mk.injEq, context, true_and]
  omega

theorem head_equalStep (a b n : Nat) : (equalStep a b n).head = equalStep a b (min n context) := by
  simp only [Step.head, equalStep, ↓reduceIte, Step.mk.injEq, context, true_and]
  omega

/-- An equal stretch is cut to its last lines; what is cut off is common. -/
theorem Step.Sound.tail (h : s.Sound left right) :
    ∃ n, s.tail.Sound left right ∧ s.tail.left = s.left + n ∧ s.tail.right = s.right + n ∧
      s.tail.leftStop = s.leftStop ∧ s.tail.rightStop = s.rightStop ∧
      Alike left right s.left s.right n := by
  by_cases hkind : s.kind = .equal
  · obtain ⟨a, b, n, rfl, hpos, hl, hr, halike⟩ := h.exists_equalStep hkind
    have hcut : n - context + min n context = n := by omega
    have hcontext : 0 < min n context := by simp only [context]; omega
    rw [tail_equalStep]
    refine ⟨n - context, sound_equalStep hcontext ?_ ?_ (halike.part (Nat.le_of_eq hcut)), rfl, rfl,
      ?_, ?_, halike.part (i := 0) (by omega)⟩
    · omega
    · omega
    · dsimp only [equalStep]
      omega
    · dsimp only [equalStep]
      omega
  · rw [Step.tail, if_neg hkind]
    exact ⟨0, h, rfl, rfl, rfl, rfl, nofun⟩

/-- An equal stretch is cut to its first lines. -/
theorem Step.Sound.head (h : s.Sound left right) :
    ∃ n, s.head.Sound left right ∧ s.head.left = s.left ∧ s.head.right = s.right ∧
      s.leftStop = s.head.leftStop + n ∧ s.rightStop = s.head.rightStop + n ∧
      Alike left right s.head.leftStop s.head.rightStop n := by
  by_cases hkind : s.kind = .equal
  · obtain ⟨a, b, n, rfl, hpos, hl, hr, halike⟩ := h.exists_equalStep hkind
    have hcontext : 0 < min n context := by simp only [context]; omega
    rw [head_equalStep]
    refine ⟨n - min n context, sound_equalStep hcontext ?_ ?_ (halike.part (i := 0) ?_), rfl, rfl,
      ?_, ?_, halike.part ?_⟩
    · omega
    · omega
    · omega
    · dsimp only [equalStep]
      omega
    · dsimp only [equalStep]
      omega
    · omega
  · rw [Step.head, if_neg hkind]
    exact ⟨0, h, rfl, rfl, rfl, rfl, nofun⟩

/-! ## Trimmed ends -/

theorem tiles_trimEnds (h : Tiles left right a b steps c d) (hend : left.drop c = right.drop d) :
    ∃ n e f, Alike left right a b n ∧ Tiles left right (a + n) (b + n) (trimEnds steps) e f ∧
      left.drop e = right.drop f := by
  cases h with
  | nil => exact ⟨0, a, b, nofun, .nil, hend⟩
  | @cons s rest _ _ hs hrest =>
    obtain ⟨n, htail, hleft, hright, hleftStop, hrightStop, halike⟩ := hs.tail
    have htiles : Tiles left right (s.left + n) (s.right + n) (s.tail :: rest) c d := by
      have := Tiles.cons htail (hleftStop ▸ hrightStop ▸ hrest)
      rwa [hleft, hright] at this
    obtain ⟨front, t, hfront⟩ : ∃ front t, s.tail :: rest = front ++ [t] :=
      ⟨_, _, (List.dropLast_concat_getLast (List.cons_ne_nil _ _)).symm⟩
    have htrim : trimEnds (s :: rest) = front ++ [t.head] := by simp [trimEnds, hfront]
    rw [hfront] at htiles
    obtain ⟨e, f, hbefore, hlast⟩ := htiles.split
    obtain ⟨ht, rfl, rfl, rfl, rfl⟩ := tiles_one_iff.mp hlast
    obtain ⟨m, hhead, hleft', hright', hleftStop', hrightStop', hcut⟩ := ht.head
    refine ⟨n, t.head.leftStop, t.head.rightStop, halike, ?_, ?_⟩
    · rw [htrim]
      refine hbefore.append ?_
      rw [← hleft', ← hright']
      exact tiles_one hhead
    · rw [hleftStop', hrightStop'] at hend
      exact hcut.drop_eq hend

/-! ## Groups -/

/-- Groups of steps, none of them empty; the lines before each group and behind the last are
common. -/
inductive Grouped (left right : List Text) : (a b : Nat) → List (List Step) → Prop
  | nil {a b : Nat} : left.drop a = right.drop b → Grouped left right a b []
  | cons {a b n c d : Nat} {g : List Step} {gs : List (List Step)} : Alike left right a b n →
      g ≠ [] → Tiles left right (a + n) (b + n) g c d → Grouped left right c d gs →
      Grouped left right a b (g :: gs)

/-- The groups without the last one, where that has no change. -/
def dropIdle : List (List Step) → List (List Step)
  | [] => []
  | [g] => if idle g then [] else [g]
  | g :: more :: gs => g :: dropIdle (more :: gs)

theorem dropIdle_cons {g : List Step} {gs : List (List Step)} (h : gs ≠ []) :
    dropIdle (g :: gs) = g :: dropIdle gs := by
  cases gs with
  | nil => exact absurd rfl h
  | cons => rfl

theorem dropIdle_concat (gs : List (List Step)) (g : List Step) :
    dropIdle (gs ++ [g]) = if idle g then gs else gs ++ [g] := by
  induction gs with
  | nil => rfl
  | cons first rest ih =>
    rw [List.cons_append, dropIdle_cons (by simp), ih]
    split <;> rfl

theorem hunks_eq (steps : List Step) : hunks steps = dropIdle (group [] (trimEnds steps)) := by
  unfold hunks
  rcases List.eq_nil_or_concat (group [] (trimEnds steps)) with hnil | ⟨gs, g, hconcat⟩
  · rw [hnil]
    rfl
  · rw [hconcat, List.concat_eq_append, dropIdle_concat]
    simp only [List.reverse_append, List.reverse_cons, List.reverse_nil, List.nil_append,
      List.singleton_append]
    split <;> simp

theorem group_ne_nil (current steps : List Step) : group current steps ≠ [] := by
  induction steps generalizing current with
  | nil => simp [group]
  | cons s rest ih =>
    rw [group]
    split
    · simp
    · exact ih _

theorem grouped_idle {current : List Step} (hidle : idle current = true)
    (hcurrent : Tiles left right a b current c d) (hend : left.drop c = right.drop d) :
    left.drop a = right.drop b := by
  unfold idle at hidle
  split at hidle
  · cases hcurrent
    exact hend
  · rename_i s
    obtain ⟨hs, rfl, rfl, rfl, rfl⟩ := tiles_one_iff.mp hcurrent
    obtain ⟨a, b, n, rfl, -, -, -, halike⟩ := hs.exists_equalStep (by simpa using hidle)
    exact halike.drop_eq hend
  · cases hidle

theorem grouped_group {n : Nat} {current : List Step} (hgap : Alike left right a b n)
    (hcurrent : Tiles left right (a + n) (b + n) current c d)
    (hsteps : Tiles left right c d steps e f) (hend : left.drop e = right.drop f) :
    Grouped left right a b (dropIdle (group current steps)) := by
  induction steps generalizing a b n current c d with
  | nil =>
    cases hsteps
    rw [group, dropIdle]
    split
    · rename_i hidle
      exact .nil (hgap.drop_eq (grouped_idle hidle hcurrent hend))
    · rename_i hchange
      refine .cons hgap ?_ hcurrent (.nil hend)
      rintro rfl
      exact hchange rfl
  | cons s rest ih =>
    obtain _ | ⟨hs, hrest⟩ := hsteps
    rw [group]
    split
    · rename_i hlong
      simp only [Bool.and_eq_true, decide_eq_true_eq] at hlong
      obtain ⟨i, j, k, rfl, hpos, -, -, halike⟩ := hs.exists_equalStep hlong.1
      -- both ends of the stretch are shown, and the lines between them are left out
      have hsize : (equalStep i j k).size = k := by simp [equalStep, Step.size]
      rw [hsize, show context = 3 from rfl] at hlong
      rw [dropIdle_cons (group_ne_nil _ _)]
      obtain ⟨-, hhead, -⟩ := hs.head
      obtain ⟨-, htail, -⟩ := hs.tail
      rw [head_equalStep, show min k context = 3 by simp only [context]; omega] at hhead ⊢
      rw [tail_equalStep, show min k context = 3 by simp only [context]; omega,
        show k - context = 3 + (k - 6) by simp only [context]; omega] at htail ⊢
      refine .cons hgap (by simp) (hcurrent.append (tiles_one hhead)) ?_
      refine ih (n := k - 6) (c := i + k) (d := j + k) (halike.part (by omega)) ?_ hrest
      refine tiles_one_iff.mpr ⟨htail, ?_⟩
      dsimp only [equalStep]
      omega
    · exact ih hgap (hcurrent.append (tiles_one hs)) hrest

theorem grouped_hunks (left right : List Text) :
    Grouped left right 0 0 (hunks (script left right)) := by
  obtain ⟨n, e, f, hgap, htiles, hend⟩ := tiles_trimEnds (tiles_script left right)
    (by rw [List.drop_length, List.drop_length])
  rw [hunks_eq]
  exact grouped_group hgap .nil htiles hend

end

/-! ## Hunks as they are shown -/

/-- What becomes of a line. -/
inductive Mark where
  | kept
  | removed
  | added
  deriving DecidableEq, Repr

def Mark.char : Mark → Char
  | .kept => ' '
  | .removed => '-'
  | .added => '+'

/-- A line with its end, and what becomes of it. -/
abbrev MarkedLine := Mark × Text

/-- The lines of the first version. -/
def oldLines (ls : List MarkedLine) : List Text := (ls.filter (·.1 ≠ .added)).map (·.2)

/-- The lines of the second version. -/
def newLines (ls : List MarkedLine) : List Text := (ls.filter (·.1 ≠ .removed)).map (·.2)

/-- A hunk begins at a place of each version. -/
structure Hunk where
  left : Nat
  right : Nat
  lines : List MarkedLine

namespace Hunk

def old (h : Hunk) : List Text := oldLines h.lines

def new (h : Hunk) : List Text := newLines h.lines

/-- Which lines of both versions follow. -/
def head (h : Hunk) : Text :=
  s!"@@ -{span h.left (h.left + h.old.length)} +{span h.right (h.right + h.new.length)} @@".toList

/-- The texts that are printed one behind the other. -/
def parts (h : Hunk) : List Text := (h.head ++ ['\n']) :: h.lines.map fun l => l.1.char :: l.2

def text (h : Hunk) : Text := h.parts.flatten

end Hunk

/-- Hunks show the lines of the first version from the place `a` on, and what becomes of them: the
second version from `b` on. Lines that no hunk shows are common. -/
inductive Shows : (a b : Nat) → List Hunk → (before after : List Text) → Prop
  | rest {a b : Nat} (common : List Text) : Shows a b [] common common
  | hunk {a b : Nat} (common : List Text) {h : Hunk} {hunks : List Hunk} {before after : List Text} :
      h.lines ≠ [] → h.left = a + common.length → h.right = b + common.length →
      Shows (h.left + h.old.length) (h.right + h.new.length) hunks before after →
      Shows a b (h :: hunks) (common ++ h.old ++ before) (common ++ h.new ++ after)

/-! ## The lines of a step -/

def Step.lines (left right : List Text) (s : Step) : List MarkedLine :=
  let removed := stretch left s.left s.leftStop
  let added := stretch right s.right s.rightStop
  match s.kind with
  | .equal => removed.map (Mark.kept, ·)
  | .delete => removed.map (Mark.removed, ·)
  | .insert => added.map (Mark.added, ·)
  | .replace => removed.map (Mark.removed, ·) ++ added.map (Mark.added, ·)

/-- The hunk of a group of steps. -/
def Hunk.of (left right : List Text) (steps : List Step) : Hunk where
  left := (steps.head?.map Step.left).getD 0
  right := (steps.head?.map Step.right).getD 0
  lines := steps.flatMap (Step.lines left right)

@[simp]
theorem oldLines_append (xs ys : List MarkedLine) :
    oldLines (xs ++ ys) = oldLines xs ++ oldLines ys := by
  simp [oldLines]

@[simp]
theorem newLines_append (xs ys : List MarkedLine) :
    newLines (xs ++ ys) = newLines xs ++ newLines ys := by
  simp [newLines]

@[simp]
theorem oldLines_map (mark : Mark) (ls : List Text) :
    oldLines (ls.map (mark, ·)) = if mark = .added then [] else ls := by
  cases mark <;> simp [oldLines, List.filter_map, Function.comp_def]

@[simp]
theorem newLines_map (mark : Mark) (ls : List Text) :
    newLines (ls.map (mark, ·)) = if mark = .removed then [] else ls := by
  cases mark <;> simp [newLines, List.filter_map, Function.comp_def]

section

variable {left right : List Text} {a b c d : Nat} {s : Step} {steps : List Step}

theorem marked_eq (mark : Mark) (ls : List Text) (start stop : Nat) :
    marked mark.char ls start stop =
      ((stretch ls start stop).map (mark, ·)).flatMap fun l => l.1.char :: l.2 := by
  rw [List.flatMap_map]
  rfl

theorem write_eq (left right : List Text) (s : Step) :
    s.write left right = (s.lines left right).flatMap fun l => l.1.char :: l.2 := by
  unfold Step.write Step.lines
  cases s.kind with
  | equal => exact marked_eq .kept ..
  | delete => exact marked_eq .removed ..
  | insert => exact marked_eq .added ..
  | replace =>
    rw [List.flatMap_append, ← marked_eq, ← marked_eq]
    rfl

theorem mem_of_mem_lines {line : MarkedLine} (h : line ∈ s.lines left right) :
    line.2 ∈ left ∨ line.2 ∈ right := by
  have hmarked : ∀ {mark : Mark} {ls : List Text} {start stop : Nat},
      line ∈ (stretch ls start stop).map (mark, ·) → line.2 ∈ ls := by
    intro mark ls start stop hmem
    obtain ⟨text, htext, rfl⟩ := List.mem_map.mp hmem
    exact mem_of_mem_stretch htext
  unfold Step.lines at h
  dsimp only at h
  split at h
  · exact .inl (hmarked h)
  · exact .inl (hmarked h)
  · exact .inr (hmarked h)
  · exact (List.mem_append.mp h).imp hmarked hmarked

theorem Step.Sound.oldLines_eq (h : s.Sound left right) :
    oldLines (s.lines left right) = stretch left s.left s.leftStop := by
  cases hkind : s.kind with
  | insert => simp [Step.lines, hkind, h.insert hkind, stretch_self]
  | _ => simp [Step.lines, hkind]

theorem Step.Sound.newLines_eq (h : s.Sound left right) :
    newLines (s.lines left right) = stretch right s.right s.rightStop := by
  cases hkind : s.kind with
  | equal =>
    obtain ⟨a, b, n, rfl, -, -, -, halike⟩ := h.exists_equalStep hkind
    simp [Step.lines, equalStep, halike.stretch_eq]
  | delete => simp [Step.lines, hkind, h.delete hkind, stretch_self]
  | _ => simp [Step.lines, hkind]

theorem Step.Sound.lines_ne_nil (h : s.Sound left right) : s.lines left right ≠ [] := by
  intro hnil
  have hold : (stretch left s.left s.leftStop).length = 0 := by
    rw [← h.oldLines_eq, hnil]
    rfl
  have hnew : (stretch right s.right s.rightStop).length = 0 := by
    rw [← h.newLines_eq, hnil]
    rfl
  rw [length_stretch h.leftStop_le] at hold
  rw [length_stretch h.rightStop_le] at hnew
  have := h.filled
  omega

theorem Tiles.oldLines_eq (h : Tiles left right a b steps c d) :
    oldLines (steps.flatMap (Step.lines left right)) = stretch left a c := by
  induction h with
  | nil => simp [oldLines, stretch_self]
  | cons hs hrest ih =>
    rw [List.flatMap_cons, oldLines_append, hs.oldLines_eq, ih,
      stretch_append hs.left_le hrest.le.1]

theorem Tiles.newLines_eq (h : Tiles left right a b steps c d) :
    newLines (steps.flatMap (Step.lines left right)) = stretch right b d := by
  induction h with
  | nil => simp [newLines, stretch_self]
  | cons hs hrest ih =>
    rw [List.flatMap_cons, newLines_append, hs.newLines_eq, ih,
      stretch_append hs.right_le hrest.le.2]

theorem Tiles.getLast?_stops (h : Tiles left right a b steps c d) (hne : steps ≠ []) :
    ∃ last, steps.getLast? = some last ∧ last.leftStop = c ∧ last.rightStop = d := by
  obtain ⟨front, last, rfl⟩ : ∃ front last, steps = front ++ [last] :=
    ⟨_, _, (List.dropLast_concat_getLast hne).symm⟩
  obtain ⟨e, f, -, hlast⟩ := h.split
  obtain ⟨-, -, -, rfl, rfl⟩ := tiles_one_iff.mp hlast
  exact ⟨last, by simp, rfl, rfl⟩

/-! ## The hunk of a group -/

theorem Tiles.hunk_of (h : Tiles left right a b steps c d) (hne : steps ≠ []) :
    (Hunk.of left right steps).left = a ∧ (Hunk.of left right steps).right = b ∧
      (Hunk.of left right steps).lines ≠ [] := by
  cases h with
  | nil => exact absurd rfl hne
  | @cons s rest _ _ hs _ =>
    refine ⟨rfl, rfl, ?_⟩
    simp [Hunk.of, hs.lines_ne_nil]

theorem Tiles.length_old (h : Tiles left right a b steps c d) (hne : steps ≠ []) :
    a + (Hunk.of left right steps).old.length = c := by
  rw [Hunk.old, Hunk.of, h.oldLines_eq, length_stretch (h.le_length_of_ne_nil hne).1]
  have := h.le
  omega

theorem Tiles.length_new (h : Tiles left right a b steps c d) (hne : steps ≠ []) :
    b + (Hunk.of left right steps).new.length = d := by
  rw [Hunk.new, Hunk.of, h.newLines_eq, length_stretch (h.le_length_of_ne_nil hne).2]
  have := h.le
  omega

theorem writeHunk_eq (h : Tiles left right a b steps c d) (hne : steps ≠ []) :
    writeHunk left right steps = (Hunk.of left right steps).text := by
  obtain ⟨last, hlast, rfl, rfl⟩ := h.getLast?_stops hne
  have hold := h.length_old hne
  have hnew := h.length_new hne
  cases h with
  | nil => exact absurd rfl hne
  | @cons s rest _ _ hs _ =>
    have hhead : (Hunk.of left right (s :: rest)).head =
        s!"@@ -{span s.left last.leftStop} +{span s.right last.rightStop} @@".toList := by
      rw [Hunk.head]
      simp only [Hunk.of, List.head?_cons, Option.map_some, Option.getD_some] at hold hnew ⊢
      rw [hold, hnew]
    have hlines : (s :: rest).flatMap (Step.write left right) =
        ((Hunk.of left right (s :: rest)).lines.map fun l => l.1.char :: l.2).flatten := by
      rw [← List.flatMap_def, Hunk.of, List.flatMap_assoc, funext (write_eq left right)]
    rw [Hunk.text, Hunk.parts, List.flatten_cons, ← hlines, hhead]
    have hend : (toString " @@\n").toList = (toString " @@").toList ++ ['\n'] := rfl
    simp only [writeHunk, hlast, String.toList_append, hend, List.append_assoc]

theorem Grouped.shows {gs : List (List Step)} (h : Grouped left right a b gs) :
    Shows a b (gs.map (Hunk.of left right)) (left.drop a) (right.drop b) := by
  induction h with
  | nil hcommon =>
    rw [hcommon]
    exact .rest _
  | @cons a b n c d g gs hgap hne htiles _ ih =>
    obtain ⟨hleft, hright, hlines⟩ := htiles.hunk_of hne
    have hold := htiles.length_old hne
    have hnew := htiles.length_new hne
    have hle := htiles.le
    have hlength := htiles.le_length_of_ne_nil hne
    have hcommon : (stretch left a (a + n)).length = n := by
      rw [length_stretch (by omega), Nat.add_sub_cancel_left]
    have hbefore : left.drop a =
        stretch left a (a + n) ++ (Hunk.of left right g).old ++ left.drop c := by
      rw [Hunk.old, Hunk.of, htiles.oldLines_eq, List.append_assoc, stretch_append_drop hle.1,
        stretch_append_drop (Nat.le_add_right a n)]
    have hafter : right.drop b =
        stretch left a (a + n) ++ (Hunk.of left right g).new ++ right.drop d := by
      rw [Hunk.new, Hunk.of, htiles.newLines_eq, List.append_assoc, stretch_append_drop hle.2,
        hgap.stretch_eq, stretch_append_drop (Nat.le_add_right b n)]
    rw [hbefore, hafter, List.map_cons]
    refine .hunk _ hlines (by rw [hleft, hcommon]) (by rw [hright, hcommon]) ?_
    rwa [hleft, hright, hold, hnew]

theorem Grouped.write_eq {gs : List (List Step)} (h : Grouped left right a b gs) :
    gs.flatMap (writeHunk left right) = (gs.map (Hunk.of left right)).flatMap Hunk.text := by
  induction h with
  | nil => rfl
  | cons _ hne htiles _ ih =>
    rw [List.flatMap_cons, List.map_cons, List.flatMap_cons, writeHunk_eq htiles hne, ih]

end

/-! ## Versions of a text -/

/-- The hunks between two versions of a text. -/
def hunksOf (before after : Text) : List Hunk :=
  (hunks (script (Text.cut before) (Text.cut after))).map
    (Hunk.of (Text.cut before) (Text.cut after))

theorem shows_hunksOf (before after : Text) :
    Shows 0 0 (hunksOf before after) (Text.cut before) (Text.cut after) :=
  (grouped_hunks (Text.cut before) (Text.cut after)).shows

theorem hunksOf_ne_nil {before after : Text} (h : before ≠ after) : hunksOf before after ≠ [] := by
  intro hnil
  have hshows := shows_hunksOf before after
  rw [hnil] at hshows
  generalize hleft : Text.cut before = left, hright : Text.cut after = right at hshows
  cases hshows
  apply h
  rw [← Text.flatten_cut before, ← Text.flatten_cut after, hleft, hright]

theorem mem_cut_of_mem_hunksOf {before after : Text} {h : Hunk} (hh : h ∈ hunksOf before after)
    {line : MarkedLine} (hline : line ∈ h.lines) :
    line.2 ∈ Text.cut before ∨ line.2 ∈ Text.cut after := by
  obtain ⟨steps, -, rfl⟩ := List.mem_map.mp hh
  obtain ⟨s, -, hs⟩ := List.mem_flatMap.mp hline
  exact mem_of_mem_lines hs

end Diff

/-- A unified diff is a head, which names both versions, and the texts of the hunks. -/
theorem unifiedDiff_eq {before after : Text} (h : before ≠ after) (name : String) :
    unifiedDiff before after name =
      s!"--- a/{name}\n+++ b/{name}".toList ++
        '\n' :: (Diff.hunksOf before after).flatMap Diff.Hunk.text := by
  have hne := Diff.hunksOf_ne_nil h
  unfold unifiedDiff
  dsimp only
  split
  · rename_i hnil
    rw [Diff.hunksOf, hnil] at hne
    exact absurd rfl hne
  · rw [(Diff.grouped_hunks _ _).write_eq, ← Diff.hunksOf]
    have hend : (toString "\n").toList = ['\n'] := rfl
    simp only [String.toList_append, hend, List.append_assoc, List.singleton_append]

end TidyImports
