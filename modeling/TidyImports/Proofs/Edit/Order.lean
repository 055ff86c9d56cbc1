import Mathlib.Order.MinMax
import Mathlib.Tactic.Order
import TidyImports.Edit.Basic

/-!
# The order of positions, ranges and edits

Proved here:

* positions are a linear order, and `Position.first` and `Position.last` are its minimum and
  maximum (`first_eq_min`, `last_eq_max`);
* `Range.meets_iff`: two ranges meet when neither is empty and each starts before the other stops;
* `Text.le` and `Edit.le` are linear orders: total (`le_total`), transitive (`le_trans`) and
  antisymmetric (`le_antisymm`). `Edit.le_iff` spells the order out by start, stop and new text,
  and `a < b` for edits is the strict form of it.
-/

namespace TidyImports

/-! ## Texts -/

namespace Text

theorem le_total (a b : Text) : le a b = true ∨ le b a = true := by
  induction a generalizing b with
  | nil => exact Or.inl (by simp [le])
  | cons c a ih =>
    cases b with
    | nil => exact Or.inr (by simp [le])
    | cons d b =>
      by_cases h : c = d
      · simpa [le, h] using ih b
      · have hn : c.toNat ≠ d.toNat := fun e => h (Char.toNat_inj.mp e)
        simp only [le, h, Ne.symm h, ↓reduceIte, decide_eq_true_eq]
        omega

theorem le_trans {a b c : Text} (h : le a b = true) (k : le b c = true) : le a c = true := by
  induction a generalizing b c with
  | nil => simp [le]
  | cons x a ih =>
    cases b with
    | nil => simp [le] at h
    | cons y b =>
      cases c with
      | nil => simp [le] at k
      | cons z c =>
        by_cases hxy : x = y
        · subst hxy
          by_cases hxz : x = z
          · simp only [le, hxz, ↓reduceIte] at h k ⊢
            exact ih h k
          · simpa [le, hxz] using k
        · simp only [le, hxy, ↓reduceIte, decide_eq_true_eq] at h
          by_cases hyz : y = z
          · subst hyz
            simpa [le, hxy] using h
          · simp only [le, hyz, ↓reduceIte, decide_eq_true_eq] at k
            have hxz : x ≠ z := by
              rintro rfl
              omega
            simp only [le, hxz, ↓reduceIte, decide_eq_true_eq]
            omega

theorem le_antisymm {a b : Text} (h : le a b = true) (k : le b a = true) : a = b := by
  induction a generalizing b with
  | nil =>
    cases b with
    | nil => rfl
    | cons d b => simp [le] at k
  | cons c a ih =>
    cases b with
    | nil => simp [le] at h
    | cons d b =>
      by_cases e : c = d
      · subst e
        rw [ih (by simpa [le] using h) (by simpa [le] using k)]
      · simp only [le, e, Ne.symm e, ↓reduceIte, decide_eq_true_eq] at h k
        omega

end Text

/-! ## Positions -/

namespace Position

theorem le_antisymm {a b : Position} (h : a ≤ b) (k : b ≤ a) : a = b := by
  rw [le_iff] at h k
  cases a
  cases b
  simp only [mk.injEq] at *
  omega

instance : LinearOrder Position where
  le_refl := le_refl
  le_trans _ _ _ := le_trans
  le_antisymm _ _ := le_antisymm
  lt_iff_le_not_ge a b := by
    rw [lt_iff, le_iff, le_iff]
    omega
  le_total a b := by
    rw [le_iff, le_iff]
    omega
  toDecidableLE := inferInstance
  toDecidableLT := inferInstance
  toDecidableEq := inferInstance

theorem first_eq_min (a b : Position) : first a b = min a b := by
  unfold first
  split
  · rw [min_eq_right (by order)]
  · rw [min_eq_left (by order)]

theorem last_eq_max (a b : Position) : last a b = max a b := by
  unfold last
  split
  · rw [max_eq_right (by order)]
  · rw [max_eq_left (by order)]

end Position

/-! ## Ranges -/

namespace Range

theorem eq_of_ends {r s : Range} (h : r.start = s.start) (k : r.stop = s.stop) : r = s := by
  cases r
  cases s
  cases h
  cases k
  rfl

theorem empty_iff {r : Range} : r.empty = true ↔ r.start = r.stop := by
  simp [empty]

theorem meets_iff {r s : Range} : r.meets s = true ↔
    r.start < r.stop ∧ s.start < s.stop ∧ r.start < s.stop ∧ s.start < r.stop := by
  simp only [meets, Position.last_eq_max, Position.first_eq_min, decide_eq_true_eq, max_lt_iff,
    lt_min_iff]
  constructor
  · rintro ⟨⟨hr, hs⟩, hrs, hss⟩
    exact ⟨hr, hss, hrs, hs⟩
  · rintro ⟨hr, hss, hrs, hs⟩
    exact ⟨⟨hr, hs⟩, hrs, hss⟩

theorem union_start (r s : Range) : (r.union s).start = min r.start s.start :=
  Position.first_eq_min ..

theorem union_stop (r s : Range) : (r.union s).stop = max r.stop s.stop :=
  Position.last_eq_max ..

/-- The range reaches over the other one. -/
def covers (r s : Range) : Prop := r.start ≤ s.start ∧ s.stop ≤ r.stop

theorem covers_refl (r : Range) : r.covers r := ⟨le_refl _, le_refl _⟩

theorem covers_trans {r s t : Range} (h : r.covers s) (k : s.covers t) : r.covers t :=
  ⟨h.1.trans k.1, k.2.trans h.2⟩

theorem union_covers_left (r s : Range) : (r.union s).covers r := by
  rw [covers, union_start, union_stop]
  exact ⟨min_le_left _ _, le_max_left _ _⟩

theorem union_covers_right (r s : Range) : (r.union s).covers s := by
  rw [covers, union_start, union_stop]
  exact ⟨min_le_right _ _, le_max_right _ _⟩

/-- The position is the place of a character in the range. -/
def holds (r : Range) (p : Position) : Prop := r.start ≤ p ∧ p < r.stop

/-- Between two ranges that meet there is no gap. -/
theorem holds_union_iff {r s : Range} {p : Position} (hm : s.meets r = true) :
    (r.union s).holds p ↔ r.holds p ∨ s.holds p := by
  obtain ⟨-, -, hs, hr⟩ := meets_iff.mp hm
  simp only [holds, union_start, union_stop, min_le_iff, lt_max_iff]
  constructor
  · rintro ⟨h | h, k | k⟩
    · exact Or.inl ⟨h, k⟩
    · rcases lt_or_ge p r.stop with hp | hp
      · exact Or.inl ⟨h, hp⟩
      · exact Or.inr ⟨le_of_lt (lt_of_lt_of_le hs hp), k⟩
    · rcases lt_or_ge p s.stop with hp | hp
      · exact Or.inr ⟨h, hp⟩
      · exact Or.inl ⟨le_of_lt (lt_of_lt_of_le hr hp), k⟩
    · exact Or.inr ⟨h, k⟩
  · rintro (⟨h, k⟩ | ⟨h, k⟩)
    · exact ⟨Or.inl h, Or.inl k⟩
    · exact ⟨Or.inr h, Or.inr k⟩

/-- The position lies inside the range, at neither of its ends. -/
def encloses (r : Range) (p : Position) : Prop := r.start < p ∧ p < r.stop

/-- What two meeting ranges enclose together, one of them encloses alone. -/
theorem encloses_of_union {r s : Range} {p : Position} (ho : r.start ≤ s.start)
    (hm : s.meets r = true) (h : (r.union s).encloses p) : r.encloses p ∨ s.encloses p := by
  obtain ⟨-, -, hs, -⟩ := meets_iff.mp hm
  rw [encloses, union_start, union_stop, min_eq_left ho] at h
  obtain ⟨hl, hr⟩ := h
  rcases lt_max_iff.mp hr with hp | hp
  · exact Or.inl ⟨hl, hp⟩
  · rcases lt_or_ge p r.stop with hq | hq
    · exact Or.inl ⟨hl, hq⟩
    · exact Or.inr ⟨lt_of_lt_of_le hs hq, hp⟩

end Range

/-! ## Edits -/

namespace Edit

theorem start_le_stop (e : Edit) : e.start ≤ e.stop := e.range.ordered

theorem empty_iff {e : Edit} : e.range.empty = true ↔ e.start = e.stop := Range.empty_iff

theorem meets_iff {a b : Edit} : a.range.meets b.range = true ↔
    a.start < a.stop ∧ b.start < b.stop ∧ a.start < b.stop ∧ b.start < a.stop :=
  Range.meets_iff

theorem le_iff {a b : Edit} : a.le b = true ↔
    a.start < b.start ∨ a.start = b.start ∧
      (a.stop < b.stop ∨ a.stop = b.stop ∧ Text.le a.newText b.newText = true) := by
  unfold le Range.order start stop
  rcases lt_trichotomy a.range.start b.range.start with h | h | h
  · simp [h]
  · rcases lt_trichotomy a.range.stop b.range.stop with k | k | k
    · simp [h, k]
    · simp [h, k]
    · simp [h, k, lt_asymm k, ne_of_gt k]
  · simp [h, lt_asymm h, ne_of_gt h]

theorem le_total (a b : Edit) : a.le b = true ∨ b.le a = true := by
  rw [le_iff, le_iff]
  rcases lt_trichotomy a.start b.start with h | h | h
  · exact Or.inl (Or.inl h)
  · rcases lt_trichotomy a.stop b.stop with k | k | k
    · exact Or.inl (Or.inr ⟨h, Or.inl k⟩)
    · rcases Text.le_total a.newText b.newText with t | t
      · exact Or.inl (Or.inr ⟨h, Or.inr ⟨k, t⟩⟩)
      · exact Or.inr (Or.inr ⟨h.symm, Or.inr ⟨k.symm, t⟩⟩)
    · exact Or.inr (Or.inr ⟨h.symm, Or.inl k⟩)
  · exact Or.inr (Or.inl h)

theorem le_trans {a b c : Edit} (h : a.le b = true) (k : b.le c = true) : a.le c = true := by
  rw [le_iff] at h k ⊢
  rcases h with h | ⟨h, h'⟩
  · rcases k with k | ⟨k, -⟩
    · exact Or.inl (lt_trans h k)
    · exact Or.inl (k ▸ h)
  · rcases k with k | ⟨k, k'⟩
    · exact Or.inl (h ▸ k)
    · refine Or.inr ⟨h.trans k, ?_⟩
      rcases h' with h' | ⟨h', ht⟩
      · rcases k' with k' | ⟨k', -⟩
        · exact Or.inl (lt_trans h' k')
        · exact Or.inl (k' ▸ h')
      · rcases k' with k' | ⟨k', kt⟩
        · exact Or.inl (h' ▸ k')
        · exact Or.inr ⟨h'.trans k', Text.le_trans ht kt⟩

theorem le_antisymm {a b : Edit} (h : a.le b = true) (k : b.le a = true) : a = b := by
  rw [le_iff] at h k
  rcases h with h | ⟨h, h'⟩
  · rcases k with k | ⟨k, -⟩
    · exact absurd h (lt_asymm k)
    · exact absurd k (ne_of_gt h)
  · rcases k with k | ⟨-, k'⟩
    · exact absurd h (ne_of_gt k)
    · rcases h' with h' | ⟨h', ht⟩
      · rcases k' with k' | ⟨k', -⟩
        · exact absurd h' (lt_asymm k')
        · exact absurd k' (ne_of_gt h')
      · rcases k' with k' | ⟨-, kt⟩
        · exact absurd h' (ne_of_gt k')
        · cases a
          cases b
          simp only [mk.injEq]
          exact ⟨Range.eq_of_ends h h', Text.le_antisymm ht kt⟩

theorem start_le_of_le {a b : Edit} (h : a.le b = true) : a.start ≤ b.start := by
  rcases le_iff.mp h with h | ⟨h, -⟩
  · exact le_of_lt h
  · exact le_of_eq h

instance : LinearOrder Edit where
  le a b := a.le b = true
  le_refl a := by
    rcases le_total a a with h | h <;> exact h
  le_trans _ _ _ := le_trans
  le_antisymm _ _ := le_antisymm
  le_total := le_total
  toDecidableLE a b := inferInstanceAs (Decidable (a.le b = true))
  toDecidableEq := inferInstance

theorem lt_of_start_lt {a b : Edit} (h : a.start < b.start) : a < b :=
  lt_of_not_ge fun hba => absurd (start_le_of_le hba) (not_le_of_gt h)

theorem lt_of_stop_lt {a b : Edit} (h : a.start = b.start) (k : a.stop < b.stop) : a < b := by
  refine lt_of_not_ge fun hba => ?_
  rcases le_iff.mp hba with hlt | ⟨-, hlt | ⟨heq, -⟩⟩
  · exact absurd h.symm (ne_of_lt hlt)
  · exact lt_asymm k hlt
  · exact absurd heq.symm (ne_of_lt k)

end Edit

end TidyImports
