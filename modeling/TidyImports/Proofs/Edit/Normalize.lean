import Mathlib.Data.List.Pairwise
import TidyImports.Edit.Normalize
import TidyImports.Proofs.Edit.Order

/-!
# What normal batches are

The walk over the sorted edits keeps one accumulator and looks at nothing else, so every fact here
is one about `Edit.merge`, by the cases of the walk: a repetition, an edit that meets the
accumulator, any other edit.

* `forall_mem_normalize`: what joining two edits keeps holds of every edit of the normal batch;
* `exists_covers_of_mem_normalize`: every edit lies in the range of an edit of the normal batch;
* `mem_normalize_of_empty`: every insertion stays in the batch as it is;
* `normalize_pairwise_iff`: the edits of a normal batch lie one behind the other exactly when no
  insertion lies inside the range of another edit.

An insertion meets no range, not even one that it lies in. It takes the place of the accumulator,
and what it lies in is then forgotten: `normalize_overlapping` has two edits that still overlap.
-/

namespace TidyImports

namespace Edit

/-! ## The sort -/

theorem mem_sort {e : Edit} {edits : List Edit} : e ∈ sort edits ↔ e ∈ edits := List.mem_mergeSort

theorem sort_pairwise (edits : List Edit) :
    (sort edits).Pairwise fun a b => a.le b = true := by
  apply List.pairwise_mergeSort
  · intro a b c
    exact le_trans
  · intro a b
    rw [Bool.or_eq_true]
    exact le_total a b

/-! ## The walk -/

theorem join_start (a b : Edit) : (a.join b).start = min a.start b.start :=
  Range.union_start a.range b.range

theorem join_stop (a b : Edit) : (a.join b).stop = max a.stop b.stop :=
  Range.union_stop a.range b.range

/-- What holds of all edits, and of the join of two edits of which it holds, holds of all that
comes out. -/
theorem forall_mem_merge {P : Edit → Prop} (hjoin : ∀ a b, P a → P b → P (a.join b)) {last : Edit}
    {rest : List Edit} (h : ∀ e ∈ last :: rest, P e) : ∀ o ∈ merge last rest, P o := by
  fun_induction merge last rest with
  | case1 last => exact h
  | case2 rest e ih => exact ih fun x hx => h x (List.mem_cons_of_mem _ hx)
  | case3 last e rest _ _ ih =>
    apply ih
    intro x hx
    rcases List.mem_cons.mp hx with rfl | hx
    · exact hjoin last e (h last (by simp)) (h e (by simp))
    · exact h x (by simp [hx])
  | case4 last e rest _ _ ih =>
    intro o ho
    rcases List.mem_cons.mp ho with rfl | ho
    · exact h o List.mem_cons_self
    · exact ih (fun x hx => h x (List.mem_cons_of_mem _ hx)) o ho

/-- No edit that comes out starts before all that went in. -/
theorem start_le_of_mem_merge {p : Position} {last o : Edit} {rest : List Edit}
    (hl : p ≤ last.start) (hr : ∀ e ∈ rest, p ≤ e.start) (ho : o ∈ merge last rest) :
    p ≤ o.start := by
  have hjoin : ∀ a b : Edit, p ≤ a.start → p ≤ b.start → p ≤ (a.join b).start := by
    intro a b ha hb
    rw [join_start]
    exact le_min ha hb
  exact forall_mem_merge hjoin (List.forall_mem_cons.mpr ⟨hl, hr⟩) o ho

theorem exists_covers_of_mem_merge {last e : Edit} {rest : List Edit} (he : e ∈ last :: rest) :
    ∃ o ∈ merge last rest, o.range.covers e.range := by
  fun_induction merge last rest generalizing e with
  | case1 last => exact ⟨last, List.mem_cons_self, List.mem_singleton.mp he ▸ Range.covers_refl _⟩
  | case2 rest x ih =>
    apply ih
    rcases List.mem_cons.mp he with rfl | he
    · exact List.mem_cons_self
    · exact he
  | case3 last x rest _ _ ih =>
    obtain ⟨o, ho, hc⟩ := ih (List.mem_cons_self (a := last.join x))
    rcases List.mem_cons.mp he with rfl | he
    · exact ⟨o, ho, Range.covers_trans hc (Range.union_covers_left _ _)⟩
    · rcases List.mem_cons.mp he with rfl | he
      · exact ⟨o, ho, Range.covers_trans hc (Range.union_covers_right _ _)⟩
      · exact ih (List.mem_cons_of_mem _ he)
  | case4 last x rest _ _ ih =>
    rcases List.mem_cons.mp he with rfl | he
    · exact ⟨e, List.mem_cons_self, Range.covers_refl _⟩
    · obtain ⟨o, ho, hc⟩ := ih he
      exact ⟨o, List.mem_cons_of_mem _ ho, hc⟩

/-- An insertion that becomes the accumulator is met by nothing and comes out as it is. -/
theorem mem_merge_of_empty {last e : Edit} {rest : List Edit} (he : e ∈ last :: rest)
    (hempty : e.range.empty = true) : e ∈ merge last rest := by
  rw [empty_iff] at hempty
  fun_induction merge last rest with
  | case1 last => exact he
  | case2 rest x ih =>
    apply ih
    rcases List.mem_cons.mp he with rfl | he
    · exact List.mem_cons_self
    · exact he
  | case3 last x rest _ hm ih =>
    obtain ⟨hx, hlast, -, -⟩ := meets_iff.mp hm
    rcases List.mem_cons.mp he with rfl | he
    · exact absurd hempty (ne_of_lt hlast)
    · rcases List.mem_cons.mp he with rfl | he
      · exact absurd hempty (ne_of_lt hx)
      · exact ih (List.mem_cons_of_mem _ he)
  | case4 last x rest _ _ ih =>
    rcases List.mem_cons.mp he with rfl | he
    · exact List.mem_cons_self
    · exact List.mem_cons_of_mem _ (ih he)

/-! ## Order of the outcome -/

/-- What the accumulator and a later edit have in common: the edit starts no earlier, and when
the accumulator is no insertion, the edit stops behind where it starts. -/
def leads (last e : Edit) : Prop :=
  last.start ≤ e.start ∧ (last.start < last.stop → last.start < e.stop)

theorem leads_of_le {a b : Edit} (h : a.le b = true) : leads a b := by
  refine ⟨start_le_of_le h, fun ha => ?_⟩
  rcases le_iff.mp h with h | ⟨h, k | ⟨k, -⟩⟩
  · exact lt_of_lt_of_le h b.start_le_stop
  · exact lt_trans ha k
  · exact k ▸ ha

theorem leads_join {last x e : Edit} (hx : last.start ≤ x.start) (hm : x.range.meets last.range = true)
    (h : leads last e) : leads (last.join x) e := by
  obtain ⟨-, hlast, -, -⟩ := meets_iff.mp hm
  rw [leads, join_start, min_eq_left hx]
  exact ⟨h.1, fun _ => h.2 hlast⟩

/-- An edit that does not meet the accumulator lies behind it, unless it is an insertion inside. -/
theorem stop_le_start_of_not_meets {last e : Edit} (hl : leads last e)
    (hm : ¬ e.range.meets last.range = true)
    (hn : e.range.empty = true → ¬ last.range.encloses e.start) : last.stop ≤ e.start := by
  obtain ⟨hstart, hstop⟩ := hl
  rcases eq_or_lt_of_le last.start_le_stop with hlast | hlast
  · exact hlast ▸ hstart
  · rcases eq_or_lt_of_le e.start_le_stop with he | he
    · have hne := hn (empty_iff.mpr he)
      have hlt : last.start < e.start := he ▸ hstop hlast
      exact le_of_not_gt fun k => hne ⟨hlt, k⟩
    · refine le_of_not_gt fun k => hm (meets_iff.mpr ⟨he, hlast, k, ?_⟩)
      exact lt_of_le_of_lt hstart he

/-- The walk keeps three facts: the accumulator leads all edits to come, these are sorted, and
the accumulator encloses none of their insertions. -/
theorem merge_pairwise {last : Edit} {rest : List Edit} (hl : ∀ e ∈ rest, leads last e)
    (hs : rest.Pairwise fun a b => a.le b = true)
    (hn : ∀ e ∈ rest, e.range.empty = true → ∀ r ∈ last :: rest, ¬ r.range.encloses e.start) :
    (merge last rest).Pairwise fun a b => a.stop ≤ b.start := by
  fun_induction merge last rest with
  | case1 last => exact List.pairwise_singleton _ _
  | case2 rest x ih =>
    apply ih (fun e he => hl e (List.mem_cons_of_mem _ he)) (List.pairwise_cons.mp hs).2
    intro e he hempty r hr
    exact hn e (List.mem_cons_of_mem _ he) hempty r (List.mem_cons_of_mem _ hr)
  | case3 last x rest _ hm ih =>
    have hx : last.start ≤ x.start := (hl x List.mem_cons_self).1
    apply ih _ (List.pairwise_cons.mp hs).2
    · intro e he hempty r hr
      have hold := hn e (List.mem_cons_of_mem _ he) hempty
      rcases List.mem_cons.mp hr with rfl | hr
      · intro h
        rcases Range.encloses_of_union hx hm h with h | h
        · exact hold last List.mem_cons_self h
        · exact hold x (by simp) h
      · exact hold r (by simp [hr])
    · intro e he
      exact leads_join hx hm (hl e (List.mem_cons_of_mem _ he))
  | case4 last x rest _ hm ih =>
    obtain ⟨hx, hrest⟩ := List.pairwise_cons.mp hs
    have hstop : last.stop ≤ x.start := by
      apply stop_le_start_of_not_meets (hl x List.mem_cons_self) hm
      intro hempty
      exact hn x List.mem_cons_self hempty last List.mem_cons_self
    refine List.pairwise_cons.mpr ⟨fun o ho => ?_, ih ?_ hrest ?_⟩
    · exact hstop.trans
        (start_le_of_mem_merge (le_refl _) (fun e he => start_le_of_le (hx e he)) ho)
    · intro e he
      exact leads_of_le (hx e he)
    · intro e he hempty r hr
      exact hn e (List.mem_cons_of_mem _ he) hempty r (List.mem_cons_of_mem _ hr)

end Edit

/-! ## Normal batches -/

theorem forall_mem_normalize {P : Edit → Prop} (hjoin : ∀ a b, P a → P b → P (a.join b))
    {edits : List Edit} (h : ∀ e ∈ edits, P e) : ∀ o ∈ normalize edits, P o := by
  have hs : ∀ e ∈ Edit.sort edits, P e := fun e he => h e (Edit.mem_sort.mp he)
  unfold normalize
  cases hsort : Edit.sort edits with
  | nil => simp
  | cons e rest => exact Edit.forall_mem_merge hjoin (hsort ▸ hs)

theorem exists_covers_of_mem_normalize {edits : List Edit} {e : Edit} (he : e ∈ edits) :
    ∃ o ∈ normalize edits, o.range.covers e.range := by
  have hm := Edit.mem_sort.mpr he
  unfold normalize
  cases hs : Edit.sort edits with
  | nil => simp [hs] at hm
  | cons first rest => exact Edit.exists_covers_of_mem_merge (hs ▸ hm)

theorem mem_normalize_of_empty {edits : List Edit} {e : Edit} (he : e ∈ edits)
    (hempty : e.range.empty = true) : e ∈ normalize edits := by
  have hm := Edit.mem_sort.mpr he
  unfold normalize
  cases hs : Edit.sort edits with
  | nil => simp [hs] at hm
  | cons first rest => exact Edit.mem_merge_of_empty (hs ▸ hm) hempty

theorem normalize_pairwise {edits : List Edit}
    (h : ∀ e ∈ edits, e.range.empty = true → ∀ r ∈ edits, ¬ r.range.encloses e.start) :
    (normalize edits).Pairwise fun a b => a.stop ≤ b.start := by
  have hp := Edit.sort_pairwise edits
  have hm : ∀ e, e ∈ Edit.sort edits → e ∈ edits := fun e he => Edit.mem_sort.mp he
  unfold normalize
  cases hs : Edit.sort edits with
  | nil => exact List.Pairwise.nil
  | cons first rest =>
    rw [hs] at hp hm
    obtain ⟨hfirst, hrest⟩ := List.pairwise_cons.mp hp
    apply Edit.merge_pairwise (fun e he => Edit.leads_of_le (hfirst e he)) hrest
    intro e he hempty r hr
    exact h e (hm e (List.mem_cons_of_mem _ he)) hempty r (hm r hr)

/-- The edits of a normal batch lie one behind the other exactly when no insertion lies inside the
range of another edit. -/
theorem normalize_pairwise_iff (edits : List Edit) :
    (normalize edits).Pairwise (fun a b => a.stop ≤ b.start) ↔
      ∀ e ∈ edits, e.range.empty = true → ∀ r ∈ edits, ¬ r.range.encloses e.start := by
  refine ⟨fun h e he hempty r hr hin => ?_, normalize_pairwise⟩
  obtain ⟨o, ho, hstart, hstop⟩ := exists_covers_of_mem_normalize hr
  have hlt : o.start < e.start := lt_of_le_of_lt hstart hin.1
  have hgt : e.start < o.stop := lt_of_lt_of_le hin.2 hstop
  have hne : o ≠ e := fun k => lt_irrefl _ (k ▸ hlt)
  -- the order of the two in the batch is not known, so disjointness is read both ways
  have hsymm : (normalize edits).Pairwise fun a b => a.stop ≤ b.start ∨ b.stop ≤ a.start :=
    h.imp Or.inl
  have : Std.Symm fun a b : Edit => a.stop ≤ b.start ∨ b.stop ≤ a.start := ⟨fun _ _ => Or.symm⟩
  rcases hsymm.forall ho (mem_normalize_of_empty he hempty) hne with k | k
  · exact absurd (lt_of_lt_of_le hgt k) (lt_irrefl _)
  · exact absurd (lt_of_le_of_lt (e.start_le_stop.trans k) hlt) (lt_irrefl _)

/-- Two replacements that overlap, with an insertion inside the first and before the second. -/
def splitOverlap : List Edit :=
  [⟨⟨⟨0, 0⟩, ⟨0, 10⟩, by decide⟩, ['a']⟩, ⟨⟨⟨0, 5⟩, ⟨0, 5⟩, by decide⟩, ['b']⟩,
    ⟨⟨⟨0, 6⟩, ⟨0, 12⟩, by decide⟩, ['c']⟩]

/-- The insertion keeps the two replacements apart, and they are not merged. -/
theorem normalize_overlapping :
    ¬ (normalize splitOverlap).Pairwise fun a b => a.stop ≤ b.start := by
  have hs : Edit.sort splitOverlap = splitOverlap := List.mergeSort_of_pairwise (by decide)
  rw [normalize, hs]
  decide

end TidyImports
