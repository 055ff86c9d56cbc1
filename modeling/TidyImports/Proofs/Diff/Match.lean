import TidyImports.Diff.Match

/-!
# Blocks are common lines

Whatever the matcher finds are equal lines, in order and inside both lists; that it finds the
longest ones is not needed.

* `Common` — a block of equal lines inside a stretch of each list; kept by every step of the search
  (`common_longest`);
* `Chained` — blocks that follow each other in both lists;
* `blocks_chained` — so do the blocks of two lists.
-/

namespace TidyImports.Diff

variable {ls : Lines}

/-- A block of equal lines inside a stretch of each list. -/
structure Common (ls : Lines) (lowLeft highLeft lowRight highRight : Nat) (b : Block) : Prop where
  lowLeft_le : lowLeft ≤ b.left
  le_highLeft : b.left + b.size ≤ highLeft
  lowRight_le : lowRight ≤ b.right
  le_highRight : b.right + b.size ≤ highRight
  same : ∀ k < b.size, sameLine ls (b.left + k) (b.right + k) = true

/-- The places at which a block may start hold the same line. -/
def Lines.Sound (ls : Lines) : Prop := ∀ i, ∀ j ∈ ls.equals.getD i [], sameLine ls i j = true

/-! ## Equal lines -/

theorem sameLine_of_iff {left right : List Text} {i j : Nat} :
    sameLine (.of left right) i j = true ↔ ∃ line, left[i]? = some line ∧ right[j]? = some line := by
  simp only [sameLine, Lines.of, List.getElem?_toArray]
  cases left[i]? with
  | none => simp
  | some line =>
    cases right[j]? with
    | none => simp
    | some other =>
      rw [beq_iff_eq]
      constructor
      · rintro rfl
        exact ⟨line, rfl, rfl⟩
      · rintro ⟨_, ⟨⟩, ⟨⟩⟩
        rfl

theorem getElem?_of_mem_placesOf {line : Text} {right : List Text} {j : Nat}
    (h : j ∈ placesOf line right) : right[j]? = some line := by
  unfold placesOf at h
  dsimp only at h
  split at h
  · cases h
  · obtain ⟨⟨found, place⟩, hfound, rfl⟩ := List.mem_map.mp h
    obtain ⟨hmem, heq⟩ := List.mem_filter.mp hfound
    rw [List.mem_zipIdx_iff_getElem?] at hmem
    rw [hmem, beq_iff_eq.mp heq]

theorem sound_of (left right : List Text) : (Lines.of left right).Sound := by
  intro i j hj
  rw [sameLine_of_iff]
  simp only [Lines.of, Array.getD_eq_getD_getElem?, List.getElem?_toArray, List.getElem?_map] at hj
  cases hline : left[i]? with
  | none => simp [hline] at hj
  | some line => exact ⟨line, rfl, getElem?_of_mem_placesOf (by simpa [hline] using hj)⟩

/-! ## The longest block -/

section

variable {lowLeft highLeft lowRight highRight : Nat} {b : Block}

theorem Common.mono {lowLeft' highLeft' lowRight' highRight' : Nat}
    (h : Common ls lowLeft highLeft lowRight highRight b) (hl : lowLeft' ≤ lowLeft)
    (hl' : highLeft ≤ highLeft') (hr : lowRight' ≤ lowRight) (hr' : highRight ≤ highRight') :
    Common ls lowLeft' highLeft' lowRight' highRight' b where
  lowLeft_le := Nat.le_trans hl h.lowLeft_le
  le_highLeft := Nat.le_trans h.le_highLeft hl'
  lowRight_le := Nat.le_trans hr h.lowRight_le
  le_highRight := Nat.le_trans h.le_highRight hr'
  same := h.same

theorem common_empty (hl : lowLeft ≤ highLeft) (hr : lowRight ≤ highRight) :
    Common ls lowLeft highLeft lowRight highRight ⟨lowLeft, lowRight, 0⟩ :=
  ⟨Nat.le_refl _, hl, Nat.le_refl _, hr, nofun⟩

/-- One more line at the end. -/
theorem Common.snoc (h : Common ls lowLeft highLeft lowRight highRight b) {highLeft' highRight' : Nat}
    (hl : b.left + b.size < highLeft') (hr : b.right + b.size < highRight')
    (hsame : sameLine ls (b.left + b.size) (b.right + b.size) = true) :
    Common ls lowLeft highLeft' lowRight highRight' { b with size := b.size + 1 } where
  lowLeft_le := h.lowLeft_le
  le_highLeft := hl
  lowRight_le := h.lowRight_le
  le_highRight := hr
  same k hk := by
    rcases Nat.lt_succ_iff_lt_or_eq.mp hk with hk | rfl
    · exact h.same k hk
    · exact hsame

/-- One more line in front. -/
theorem Common.cons {i j size : Nat}
    (h : Common ls lowLeft highLeft lowRight highRight ⟨i + 1, j + 1, size⟩) (hl : lowLeft ≤ i)
    (hr : lowRight ≤ j) (hsame : sameLine ls i j = true) :
    Common ls lowLeft highLeft lowRight highRight ⟨i, j, size + 1⟩ where
  lowLeft_le := hl
  le_highLeft := by have := h.le_highLeft; dsimp only at this ⊢; omega
  lowRight_le := hr
  le_highRight := by have := h.le_highRight; dsimp only at this ⊢; omega
  same k hk := by
    cases k with
    | zero => exact hsame
    | succ k =>
      have := h.same k (by dsimp only at hk ⊢; omega)
      simpa [Nat.add_right_comm, Nat.add_assoc] using this

theorem common_extendFront {i j size : Nat}
    (h : Common ls lowLeft highLeft lowRight highRight ⟨i, j, size⟩) :
    Common ls lowLeft highLeft lowRight highRight (extendFront ls lowLeft lowRight i j size) := by
  fun_induction extendFront ls lowLeft lowRight i j size with
  | case1 i j size hcond ih =>
    simp only [Bool.and_eq_true, decide_eq_true_eq] at hcond
    exact ih (h.cons hcond.1.1 hcond.1.2 hcond.2)
  | case2 => exact h
  | case3 => exact h

theorem common_extendBack {room : Nat} (h : Common ls lowLeft highLeft lowRight highRight b)
    (hl : b.left + b.size + room ≤ highLeft) (hr : b.right + b.size + room ≤ highRight) :
    Common ls lowLeft highLeft lowRight highRight (extendBack ls room b) := by
  fun_induction extendBack ls room b with
  | case1 => exact h
  | case2 room b hsame ih =>
    exact ih (h.snoc (by omega) (by omega) hsame) (by dsimp only; omega) (by dsimp only; omega)
  | case3 => exact h

end

/-- The blocks of a row end right before the line `i`. -/
def Row.Sound (ls : Lines) (lowLeft lowRight highRight i : Nat) (row : Row) : Prop :=
  ∀ j k, (j, k) ∈ row → k ≤ j + 1 ∧ Common ls lowLeft i lowRight highRight ⟨i - k, j + 1 - k, k⟩

section

variable {lowLeft highLeft lowRight highRight i : Nat}

/-- The block that a line adds to, together with that line. -/
theorem Row.Sound.common {row : Row} (h : row.Sound ls lowLeft lowRight highRight i) {j : Nat}
    (hi : lowLeft ≤ i) (hlow : lowRight ≤ j) (hhigh : j < highRight)
    (hsame : sameLine ls i j = true) :
    row.before j ≤ j ∧ Common ls lowLeft (i + 1) lowRight highRight
      ⟨i + 1 - (row.before j + 1), j + 1 - (row.before j + 1), row.before j + 1⟩ := by
  have hlone : Common ls lowLeft (i + 1) lowRight highRight ⟨i, j, 0 + 1⟩ :=
    Common.snoc (b := ⟨i, j, 0⟩) ⟨hi, Nat.le_refl _, hlow, Nat.le_refl _, nofun⟩ (by simp) hhigh hsame
  unfold Row.before
  cases j with
  | zero => exact ⟨Nat.le_refl _, hlone⟩
  | succ j =>
    rw [if_neg (Nat.succ_ne_zero j), Nat.add_sub_cancel]
    cases hfound : row.lookup j with
    | none => exact ⟨Nat.zero_le _, hlone⟩
    | some k =>
      obtain ⟨before, after, rfl, -⟩ := List.lookup_eq_some_iff.mp hfound
      obtain ⟨hk, hblock⟩ := h j k (by simp)
      have hki := hblock.le_highLeft
      dsimp only at hki
      have hleft : i - k + k = i := by omega
      have hright : j + 1 - k + k = j + 1 := by omega
      have hnext : Common ls lowLeft (i + 1) lowRight highRight ⟨i - k, j + 1 - k, k + 1⟩ :=
        hblock.snoc (by dsimp only; omega) (by dsimp only; omega)
          (by dsimp only; rwa [hleft, hright])
      refine ⟨hk, ?_⟩
      rwa [Option.getD_some, Nat.add_sub_add_right, Nat.add_sub_add_right]

theorem sound_nextRow {row : Row} (hrow : row.Sound ls lowLeft lowRight highRight i)
    (hi : lowLeft ≤ i) (hhigh : i + 1 ≤ highLeft) {places : List Nat}
    (hplaces : ∀ j ∈ places, lowRight ≤ j ∧ j < highRight ∧ sameLine ls i j = true) {next : Row}
    {best : Block} (hnext : next.Sound ls lowLeft lowRight highRight (i + 1))
    (hbest : Common ls lowLeft highLeft lowRight highRight best) :
    (nextRow i row places (next, best)).1.Sound ls lowLeft lowRight highRight (i + 1) ∧
      Common ls lowLeft highLeft lowRight highRight (nextRow i row places (next, best)).2 := by
  induction places generalizing next best with
  | nil => exact ⟨hnext, hbest⟩
  | cons j rest ih =>
    obtain ⟨⟨hlow, hj, hsame⟩, hrest⟩ := List.forall_mem_cons.mp hplaces
    obtain ⟨hle, hblock⟩ := hrow.common hi hlow hj hsame
    refine ih hrest ?_ ?_
    · intro j' k' hmem
      rcases List.mem_append.mp hmem with hmem | hmem
      · exact hnext j' k' hmem
      · cases List.mem_singleton.mp hmem
        exact ⟨Nat.succ_le_succ hle, hblock⟩
    · split
      · exact hblock.mono (Nat.le_refl _) hhigh (Nat.le_refl _) (Nat.le_refl _)
      · exact hbest

theorem common_scan (hls : ls.Sound) {count : Nat} {row : Row} {best : Block}
    (hrow : row.Sound ls lowLeft lowRight highRight i) (hi : lowLeft ≤ i)
    (hcount : i + count ≤ highLeft) (hbest : Common ls lowLeft highLeft lowRight highRight best) :
    Common ls lowLeft highLeft lowRight highRight
      (scan ls lowRight highRight count i row best) := by
  induction count generalizing i row best with
  | zero => exact hbest
  | succ count ih =>
    rw [scan]
    have hplaces : ∀ j ∈ (ls.equals.getD i []).filter fun j => lowRight ≤ j && j < highRight,
        lowRight ≤ j ∧ j < highRight ∧ sameLine ls i j = true := by
      intro j hj
      obtain ⟨hmem, hbounds⟩ := List.mem_filter.mp hj
      simp only [Bool.and_eq_true, decide_eq_true_eq] at hbounds
      exact ⟨hbounds.1, hbounds.2, hls i j hmem⟩
    have hempty : Row.Sound ls lowLeft lowRight highRight (i + 1) [] := nofun
    obtain ⟨hnext, hbest'⟩ := sound_nextRow hrow hi (by omega) hplaces hempty hbest
    exact ih hnext (by omega) (by omega) hbest'

theorem common_longest (hls : ls.Sound) (hl : lowLeft ≤ highLeft) (hr : lowRight ≤ highRight) :
    Common ls lowLeft highLeft lowRight highRight
      (longest ls lowLeft highLeft lowRight highRight) := by
  unfold longest
  have hscan : Common ls lowLeft highLeft lowRight highRight
      (scan ls lowRight highRight (highLeft - lowLeft) lowLeft [] ⟨lowLeft, lowRight, 0⟩) :=
    common_scan hls nofun (Nat.le_refl _) (by omega) (common_empty hl hr)
  have hfront := common_extendFront hscan
  have := hfront.le_highLeft
  have := hfront.le_highRight
  exact common_extendBack hfront (by omega) (by omega)

end

/-! ## All blocks -/

/-- Blocks that follow each other in both lists, from two places on and before two others. -/
inductive Chained (ls : Lines) (highLeft highRight : Nat) : (left right : Nat) → List Block → Prop
  | nil {left right : Nat} : left ≤ highLeft → right ≤ highRight →
      Chained ls highLeft highRight left right []
  | cons {left right : Nat} {b : Block} {rest : List Block} : b.size ≠ 0 →
      Common ls left highLeft right highRight b →
      Chained ls highLeft highRight (b.left + b.size) (b.right + b.size) rest →
      Chained ls highLeft highRight left right (b :: rest)

section

variable {highLeft highRight left right : Nat} {bs : List Block}

theorem Chained.le_high (h : Chained ls highLeft highRight left right bs) :
    left ≤ highLeft ∧ right ≤ highRight := by
  cases h with
  | nil hl hr => exact ⟨hl, hr⟩
  | cons _ hb _ =>
    have := hb.lowLeft_le
    have := hb.le_highLeft
    have := hb.lowRight_le
    have := hb.le_highRight
    omega

theorem Chained.mono (h : Chained ls highLeft highRight left right bs) {left' right' : Nat}
    (hl : left' ≤ left) (hr : right' ≤ right) : Chained ls highLeft highRight left' right' bs := by
  cases h with
  | nil hleft hright => exact .nil (Nat.le_trans hl hleft) (Nat.le_trans hr hright)
  | cons hsize hb hrest => exact .cons hsize (hb.mono hl (Nat.le_refl _) hr (Nat.le_refl _)) hrest

theorem Chained.append {midLeft midRight : Nat} {bs' : List Block}
    (h : Chained ls midLeft midRight left right bs)
    (h' : Chained ls highLeft highRight midLeft midRight bs') :
    Chained ls highLeft highRight left right (bs ++ bs') := by
  induction h with
  | nil hl hr => exact h'.mono hl hr
  | cons hsize hb _ ih =>
    exact .cons hsize (hb.mono (Nat.le_refl _) h'.le_high.1 (Nat.le_refl _) h'.le_high.2) ih

theorem chained_blocksBetween (hls : ls.Sound) {fuel : Nat} (hl : left ≤ highLeft)
    (hr : right ≤ highRight) :
    Chained ls highLeft highRight left right
      (blocksBetween ls fuel left highLeft right highRight) := by
  induction fuel generalizing left highLeft right highRight with
  | zero => exact .nil hl hr
  | succ fuel ih =>
    rw [blocksBetween]
    have hb := common_longest hls hl hr
    generalize longest ls left highLeft right highRight = b at hb
    dsimp only
    split
    · exact .nil hl hr
    · rename_i hsize
      have hfront : Chained ls b.left b.right left right
          (if left < b.left && right < b.right then blocksBetween ls fuel left b.left right b.right
          else []) := by
        split
        · exact ih hb.lowLeft_le hb.lowRight_le
        · exact .nil hb.lowLeft_le hb.lowRight_le
      have hback : Chained ls highLeft highRight (b.left + b.size) (b.right + b.size)
          (if b.left + b.size < highLeft && b.right + b.size < highRight then
            blocksBetween ls fuel (b.left + b.size) highLeft (b.right + b.size) highRight
          else []) := by
        split
        · exact ih hb.le_highLeft hb.le_highRight
        · exact .nil hb.le_highLeft hb.le_highRight
      refine hfront.append (.cons hsize ?_ hback)
      exact ⟨Nat.le_refl _, hb.le_highLeft, Nat.le_refl _, hb.le_highRight, hb.same⟩

theorem chained_glue {b : Block} (h : Chained ls highLeft highRight left right (b :: bs)) :
    Chained ls highLeft highRight left right (glue b bs) := by
  induction bs generalizing b left right with
  | nil => exact h
  | cons c rest ih =>
    obtain _ | ⟨hsize, hb, hc⟩ := h
    rw [glue]
    split
    · rename_i hadjacent
      obtain _ | ⟨hsizeC, hcommon, hrest⟩ := hc
      refine ih (.cons (by dsimp only; omega) ?_ ?_)
      · refine ⟨hb.lowLeft_le, ?_, hb.lowRight_le, ?_, ?_⟩
        · have := hcommon.le_highLeft
          dsimp only
          omega
        · have := hcommon.le_highRight
          dsimp only
          omega
        · intro k hk
          dsimp only at hk ⊢
          by_cases hfirst : k < b.size
          · exact hb.same k hfirst
          · -- the line stands in the second block
            have := hcommon.same (k - b.size) (by omega)
            rwa [show c.left + (k - b.size) = b.left + k by omega,
              show c.right + (k - b.size) = b.right + k by omega] at this
      · dsimp only
        rwa [show b.left + (b.size + c.size) = c.left + c.size by omega,
          show b.right + (b.size + c.size) = c.right + c.size by omega]
    · exact .cons hsize hb (ih hc)

end

theorem blocks_chained (left right : List Text) :
    Chained (.of left right) left.length right.length 0 0 (blocks left right) := by
  have h : Chained (.of left right) left.length right.length 0 0
      (blocksBetween (.of left right) (left.length + 1) 0 left.length 0 right.length) :=
    chained_blocksBetween (sound_of left right) (Nat.zero_le _) (Nat.zero_le _)
  unfold blocks
  dsimp only
  split
  · rename_i hnone
    rwa [hnone] at h
  · rename_i b rest hsome
    rw [hsome] at h
    exact chained_glue h

end TidyImports.Diff
