import Mathlib.Data.List.Chain
import Mathlib.Data.List.Nodup
import TidyImports.Proofs.Edit.Normalize

/-!
# Normal batches are canonical

Proved here, for every list of edits:

* `normalize_canonical`: the normal batch does not depend on the order of the edits, it is strictly
  increasing, and it is its own normal batch;
* `normalize_conserves`: the ranges of the normal batch hold the positions that the ranges of the
  edits hold, each of these lies in one of those, and the insertions are the same, each once.

Both rest on the same two facts about the walk. An accumulator only ever grows to the right and an
insertion does not grow at all (`Edit.Grown`), so that what is emitted next is greater than what was
emitted before and does not meet it (`Edit.merge_isChain`).
-/

namespace TidyImports

namespace Edit

/-! ## The sort -/

theorem sort_eq_of_perm {edits sorted : List Edit} (h : sorted.Perm edits)
    (hs : sorted.Pairwise fun a b => a.le b = true) : sort edits = sorted := by
  apply List.Perm.eq_of_pairwise (fun a b _ _ => le_antisymm) (sort_pairwise edits) hs
  exact (List.mergeSort_perm edits Edit.le).trans h.symm

/-! ## The accumulator -/

/-- What an accumulator can have become: it starts where it did, stops no earlier, and an insertion
is what it was. -/
structure Grown (last o : Edit) : Prop where
  start : o.start = last.start
  stop : last.stop ≤ o.stop
  insertion : last.start = last.stop → o = last

theorem Grown.refl (last : Edit) : Grown last last := ⟨rfl, le_refl _, fun _ => rfl⟩

theorem Grown.trans {a b c : Edit} (h : Grown a b) (k : Grown b c) : Grown a c := by
  refine ⟨k.start.trans h.start, h.stop.trans k.stop, fun ha => ?_⟩
  obtain rfl := h.insertion ha
  exact k.insertion ha

theorem start_lt_stop_of_meets {a b : Edit} (h : b.range.meets a.range = true) :
    a.start < a.stop :=
  (meets_iff.mp h).2.1

theorem grown_join {last e : Edit} (hle : last.start ≤ e.start)
    (hm : e.range.meets last.range = true) : Grown last (last.join e) := by
  refine ⟨?_, Range.union_covers_left last.range e.range |>.2, fun hempty => ?_⟩
  · rw [join_start, min_eq_left hle]
  · exact absurd hempty (ne_of_lt (start_lt_stop_of_meets hm))

/-- The first edit that comes out is what the accumulator has grown to. -/
theorem grown_head_merge {last o : Edit} {rest : List Edit} (hl : ∀ e ∈ rest, leads last e)
    (ho : o ∈ (merge last rest).head?) : Grown last o := by
  fun_induction merge last rest with
  | case1 last =>
    obtain rfl := Option.some.inj ho
    exact Grown.refl last
  | case2 rest e ih => exact ih (fun x hx => hl x (List.mem_cons_of_mem _ hx)) ho
  | case3 last e rest _ hm ih =>
    have hle : last.start ≤ e.start := (hl e List.mem_cons_self).1
    refine (grown_join hle hm).trans (ih (fun x hx => ?_) ho)
    exact leads_join hle hm (hl x (List.mem_cons_of_mem _ hx))
  | case4 last e rest _ _ ih =>
    obtain rfl := Option.some.inj ho
    exact Grown.refl last

/-! ## Order of the outcome -/

/-- The second edit comes behind the first one, and their ranges do not meet. -/
def apart (a b : Edit) : Prop := a < b ∧ ¬ b.range.meets a.range = true

/-- What takes the place of an accumulator stays apart from it, however it grows. -/
theorem apart_of_grown {last e o : Edit} (hl : leads last e)
    (hi : last.start = last.stop → last ≤ e) (hne : ¬ e = last)
    (hm : ¬ e.range.meets last.range = true) (ho : Grown e o) : apart last o := by
  rcases eq_or_lt_of_le last.start_le_stop with hlast | hlast
  · -- `last` is an insertion, which nothing meets
    refine ⟨?_, fun k => absurd hlast (ne_of_lt (start_lt_stop_of_meets k))⟩
    have hlt : last < e := lt_of_le_of_ne (hi hlast) (Ne.symm hne)
    rcases eq_or_lt_of_le e.start_le_stop with he | he
    · exact ho.insertion he ▸ hlt
    · rcases eq_or_lt_of_le hl.1 with hstart | hstart
      · refine lt_of_stop_lt (hstart.trans ho.start.symm) ?_
        exact lt_of_lt_of_le (hlast ▸ hstart ▸ he) ho.stop
      · exact lt_of_start_lt (ho.start.symm ▸ hstart)
  · have hstart : last.start < e.start := by
      refine lt_of_le_of_ne hl.1 fun heq => hm (meets_iff.mpr ?_)
      have hstop : e.start < e.stop := heq ▸ hl.2 hlast
      exact ⟨hstop, hlast, heq ▸ hlast, hl.2 hlast⟩
    refine ⟨lt_of_start_lt (ho.start.symm ▸ hstart), fun k => ?_⟩
    rcases eq_or_lt_of_le e.start_le_stop with he | he
    · exact hm (ho.insertion he ▸ k)
    · obtain ⟨-, -, hbefore, -⟩ := meets_iff.mp k
      refine hm (meets_iff.mpr ⟨he, hlast, ho.start ▸ hbefore, ?_⟩)
      exact lt_trans hstart he

/-- Beside leading the edits to come, an accumulator that is an insertion is never greater than one
of them: it has not been joined with anything. -/
theorem merge_isChain {last : Edit} {rest : List Edit} (hl : ∀ e ∈ rest, leads last e)
    (hi : last.start = last.stop → ∀ e ∈ rest, last ≤ e)
    (hs : rest.Pairwise fun a b => a.le b = true) : (merge last rest).IsChain apart := by
  fun_induction merge last rest with
  | case1 last => exact List.isChain_singleton last
  | case2 rest x ih =>
    apply ih (fun e he => hl e (List.mem_cons_of_mem _ he)) _ (List.pairwise_cons.mp hs).2
    exact fun hempty e he => hi hempty e (List.mem_cons_of_mem _ he)
  | case3 last x rest _ hm ih =>
    have hx : last.start ≤ x.start := (hl x List.mem_cons_self).1
    apply ih _ _ (List.pairwise_cons.mp hs).2
    · exact fun e he => leads_join hx hm (hl e (List.mem_cons_of_mem _ he))
    · intro hempty
      have hg := grown_join hx hm
      have hlt : (last.join x).start < (last.join x).stop :=
        hg.start ▸ lt_of_lt_of_le (start_lt_stop_of_meets hm) hg.stop
      exact absurd hempty (ne_of_lt hlt)
  | case4 last x rest hne hm ih =>
    obtain ⟨hx, hrest⟩ := List.pairwise_cons.mp hs
    have hleads : ∀ e ∈ rest, leads x e := fun e he => leads_of_le (hx e he)
    refine List.isChain_cons.mpr ⟨fun o ho => ?_, ih hleads (fun _ => hx) hrest⟩
    apply apart_of_grown (hl x List.mem_cons_self) _ hne hm (grown_head_merge hleads ho)
    exact fun hempty => hi hempty x List.mem_cons_self

/-- The walk leaves alone what is apart already. -/
theorem merge_eq_self {last : Edit} {rest : List Edit} (h : (last :: rest).IsChain apart) :
    merge last rest = last :: rest := by
  induction rest generalizing last with
  | nil => rfl
  | cons e rest ih =>
    obtain ⟨⟨hlt, hm⟩, hrest⟩ := List.isChain_cons_cons.mp h
    rw [merge, if_neg (ne_of_gt hlt), if_neg hm, ih hrest]

/-! ## Positions and insertions -/

theorem exists_holds_merge_iff {p : Position} {last : Edit} {rest : List Edit} :
    (∃ o ∈ merge last rest, o.range.holds p) ↔ ∃ e ∈ last :: rest, e.range.holds p := by
  fun_induction merge last rest with
  | case1 last => rfl
  | case2 rest e ih => simp [ih]
  | case3 last e rest _ hm ih =>
    have hjoin : (last.join e).range.holds p ↔ last.range.holds p ∨ e.range.holds p :=
      Range.holds_union_iff hm
    simp [ih, hjoin, or_assoc]
  | case4 last e rest _ _ ih => simp [ih]

/-- Only replacements are joined, so that no insertion is made. -/
theorem mem_of_mem_merge_of_empty {last o : Edit} {rest : List Edit} (ho : o ∈ merge last rest)
    (hempty : o.range.empty = true) : o ∈ last :: rest := by
  fun_induction merge last rest with
  | case1 last => exact ho
  | case2 rest e ih => exact List.mem_cons_of_mem _ (ih ho)
  | case3 last e rest _ hm ih =>
    rcases List.mem_cons.mp (ih ho) with rfl | hrest
    · refine absurd (empty_iff.mp hempty) (ne_of_lt ?_)
      obtain ⟨-, hlast, -, -⟩ := meets_iff.mp hm
      have hcovers := Range.union_covers_left last.range e.range
      exact lt_of_le_of_lt hcovers.1 (lt_of_lt_of_le hlast hcovers.2)
    · simp [hrest]
  | case4 last e rest _ _ ih =>
    rcases List.mem_cons.mp ho with rfl | ho
    · exact List.mem_cons_self
    · exact List.mem_cons_of_mem _ (ih ho)

end Edit

/-! ## Normal batches -/

theorem normalize_isChain (edits : List Edit) : (normalize edits).IsChain Edit.apart := by
  have hp := Edit.sort_pairwise edits
  unfold normalize
  cases hs : Edit.sort edits with
  | nil => exact List.IsChain.nil
  | cons first rest =>
    rw [hs] at hp
    obtain ⟨hfirst, hrest⟩ := List.pairwise_cons.mp hp
    exact Edit.merge_isChain (fun e he => Edit.leads_of_le (hfirst e he)) (fun _ => hfirst) hrest

theorem normalize_increasing (edits : List Edit) : (normalize edits).Pairwise (· < ·) :=
  ((normalize_isChain edits).imp fun _ _ h => h.1).pairwise

theorem normalize_of_perm {edits edits' : List Edit} (h : edits'.Perm edits) :
    normalize edits' = normalize edits := by
  have hs : Edit.sort edits' = Edit.sort edits :=
    Edit.sort_eq_of_perm ((List.mergeSort_perm edits Edit.le).trans h.symm) (Edit.sort_pairwise edits)
  rw [normalize, hs, normalize]

theorem normalize_normalize (edits : List Edit) :
    normalize (normalize edits) = normalize edits := by
  have hs : Edit.sort (normalize edits) = normalize edits :=
    Edit.sort_eq_of_perm (List.Perm.refl _) ((normalize_increasing edits).imp le_of_lt)
  have hc := normalize_isChain edits
  rw [normalize, hs]
  cases hn : normalize edits with
  | nil => rfl
  | cons first rest => exact Edit.merge_eq_self (hn ▸ hc)

/-- **Canonical form.** The normal batch of some edits depends on which edits they are and not on
their order, it is strictly increasing, and normalizing it once more changes nothing. -/
theorem normalize_canonical (edits : List Edit) :
    (∀ edits', edits'.Perm edits → normalize edits' = normalize edits) ∧
      (normalize edits).Pairwise (· < ·) ∧ normalize (normalize edits) = normalize edits :=
  ⟨fun _ => normalize_of_perm, normalize_increasing edits, normalize_normalize edits⟩

/-- An insertion inside one of two replacements that overlap, given backwards. -/
theorem normalize_canonical_reversed :
    splitOverlap.reverse.Perm splitOverlap ∧ normalize splitOverlap.reverse = normalize splitOverlap :=
  ⟨List.reverse_perm _, (normalize_canonical splitOverlap).1 _ (List.reverse_perm _)⟩

/-- **Nothing is lost or made up.** A position lies in the range of an edit exactly when it lies in
a range of the normal batch; each range lies in one range of the batch; an insertion stands in the
batch exactly once, and no other insertion does. -/
theorem normalize_conserves (edits : List Edit) :
    (∀ p, (∃ e ∈ edits, e.range.holds p) ↔ ∃ o ∈ normalize edits, o.range.holds p) ∧
      (∀ e ∈ edits, ∃ o ∈ normalize edits, o.range.covers e.range) ∧
      (∀ e ∈ edits, e.range.empty = true → (normalize edits).count e = 1) ∧
      ∀ o ∈ normalize edits, o.range.empty = true → o ∈ edits := by
  refine ⟨fun p => ?_, fun e => exists_covers_of_mem_normalize, fun e he hempty => ?_, ?_⟩
  · have hsorted : (∃ e ∈ edits, e.range.holds p) ↔ ∃ e ∈ Edit.sort edits, e.range.holds p := by
      simp only [Edit.mem_sort]
    rw [hsorted, normalize]
    cases Edit.sort edits with
    | nil => rfl
    | cons first rest => exact Edit.exists_holds_merge_iff.symm
  · have hnodup : (normalize edits).Nodup := (normalize_increasing edits).imp ne_of_lt
    exact List.count_eq_one_of_mem hnodup (mem_normalize_of_empty he hempty)
  · intro o ho hempty
    rw [← Edit.mem_sort]
    unfold normalize at ho
    cases hs : Edit.sort edits with
    | nil => simp [hs] at ho
    | cons first rest =>
      rw [hs] at ho
      exact Edit.mem_of_mem_merge_of_empty ho hempty

/-- The insertion of these edits, given twice, with the replacements around it. -/
theorem normalize_conserves_insertion :
    ⟨⟨⟨0, 5⟩, ⟨0, 5⟩, by decide⟩, ['b']⟩ ∈ splitOverlap ++ splitOverlap ∧
      (normalize (splitOverlap ++ splitOverlap)).count ⟨⟨⟨0, 5⟩, ⟨0, 5⟩, by decide⟩, ['b']⟩ = 1 :=
  ⟨by decide, (normalize_conserves _).2.2.1 _ (by decide) (by decide)⟩

end TidyImports
