import TidyImports.Edit.Apply
import TidyImports.Proofs.Edit.Canonical

/-!
# Repeated edits

Sorting brings the copies of an edit together, and the walk drops a copy that equals its
accumulator. An edit that has been joined to the accumulator does not equal it any more, so that its
next copy is joined once again and its text comes out twice.

* `normalize_append_self_iff`: exactly when giving an edit once more changes nothing;
* `normalize_repeated`: two edits that overlap, of which one is given twice.
-/

namespace TidyImports

namespace Edit

/-! ## Walking on -/

/-- The walk over the first edits leaves a batch and the accumulator that the rest is walked
with. -/
theorem exists_merge_append (last : Edit) (front : List Edit) :
    ∃ batch acc, merge last front = batch ++ [acc] ∧
      ∀ rest, merge last (front ++ rest) = batch ++ merge acc rest := by
  fun_induction merge last front with
  | case1 last => exact ⟨[], last, rfl, fun _ => rfl⟩
  | case2 front e ih =>
    obtain ⟨batch, acc, hfront, hrest⟩ := ih
    refine ⟨batch, acc, hfront, fun rest => ?_⟩
    rw [List.cons_append, merge, if_pos rfl, hrest]
  | case3 last e front hne hm ih =>
    obtain ⟨batch, acc, hfront, hrest⟩ := ih
    refine ⟨batch, acc, hfront, fun rest => ?_⟩
    rw [List.cons_append, merge, if_neg hne, if_pos hm, hrest]
  | case4 last e front hne hm ih =>
    obtain ⟨batch, acc, hfront, hrest⟩ := ih
    refine ⟨last :: batch, acc, by rw [hfront, List.cons_append], fun rest => ?_⟩
    rw [List.cons_append, merge, if_neg hne, if_neg hm, hrest, List.cons_append]

/-! ## Joining twice -/

theorem eq_of_parts {a b : Edit} (hr : a.range = b.range) (ht : a.newText = b.newText) : a = b := by
  cases a
  cases b
  cases hr
  cases ht
  rfl

theorem join_join_range (a b : Edit) : ((a.join b).join b).range = (a.join b).range := by
  have hstart : ((a.join b).join b).start = (a.join b).start := by
    rw [join_start, join_start, min_assoc, min_self]
  have hstop : ((a.join b).join b).stop = (a.join b).stop := by
    rw [join_stop, join_stop, max_assoc, max_self]
  exact Range.eq_of_ends hstart hstop

theorem join_join_of_deletion {a b : Edit} (h : b.newText = []) : (a.join b).join b = a.join b := by
  refine eq_of_parts (join_join_range a b) ?_
  change (a.join b).newText ++ b.newText = (a.join b).newText
  rw [h, List.append_nil]

theorem meets_join {a b : Edit} (h : b.range.meets a.range = true) :
    b.range.meets (a.join b).range = true := by
  obtain ⟨hb, -, -, -⟩ := meets_iff.mp h
  have hcovers : (a.join b).range.covers b.range := Range.union_covers_right _ _
  have hstart : (a.join b).start < b.stop := lt_of_le_of_lt hcovers.1 hb
  have hstop : b.start < (a.join b).stop := lt_of_lt_of_le hb hcovers.2
  exact meets_iff.mpr ⟨hb, lt_of_lt_of_le hstart hcovers.2, hstop, hstart⟩

/-! ## Two accumulators -/

/-- Accumulators of one range that differ in their texts never come to the same. They meet the same
edits, and where one drops an edit that equals it, the other keeps its own text before it. -/
theorem merge_ne_merge {a b : Edit} (rest : List Edit) (hrange : a.range = b.range)
    (hstart : a.start < a.stop) (ha : a.newText ≠ []) (hb : b.newText ≠ [])
    (hab : a.newText ≠ b.newText) : merge a rest ≠ merge b rest := by
  induction rest generalizing a b with
  | nil =>
    intro h
    exact hab (congrArg newText (List.head_eq_of_cons_eq h))
  | cons x rest ih =>
    -- The next edit equals one of the accumulators, which drops it, while the other one takes it in.
    have hdrop : ∀ {a b : Edit}, a.range = b.range → a.start < a.stop → a.newText ≠ [] →
        b.newText ≠ [] → a.newText ≠ b.newText → merge a (a :: rest) ≠ merge b (a :: rest) := by
      intro a b hrange hstart ha hb hab
      have hm : a.range.meets b.range = true := by
        rw [← hrange]
        exact meets_iff.mpr ⟨hstart, hstart, hstart, hstart⟩
      have hunion : a.range = (b.join a).range := by
        change a.range = b.range.union a.range
        rw [← hrange]
        apply Range.eq_of_ends
        · rw [Range.union_start, min_self]
        · rw [Range.union_stop, max_self]
      rw [merge, if_pos rfl, merge, if_neg fun h => hab (congrArg newText h), if_pos hm]
      refine ih hunion hstart ha (List.append_ne_nil_of_left_ne_nil hb _) fun h => hb ?_
      exact List.append_left_eq_self.mp h.symm
    by_cases hxa : x = a
    · subst hxa
      exact hdrop hrange hstart ha hb hab
    · by_cases hxb : x = b
      · subst hxb
        have hstart' : x.start < x.stop := by rwa [start, stop, ← hrange]
        exact (hdrop hrange.symm hstart' hb ha hab.symm).symm
      · by_cases hm : x.range.meets a.range = true
        · rw [merge, if_neg hxa, if_pos hm, merge, if_neg hxb, if_pos (hrange ▸ hm)]
          have hcovers : (a.join x).range.covers a.range := Range.union_covers_left _ _
          refine ih ?_ ?_ (List.append_ne_nil_of_left_ne_nil ha _)
            (List.append_ne_nil_of_left_ne_nil hb _) fun h => hab (List.append_cancel_right h)
          · change a.range.union x.range = b.range.union x.range
            rw [hrange]
          · exact lt_of_le_of_lt hcovers.1 (lt_of_lt_of_le hstart hcovers.2)
        · rw [merge, if_neg hxa, if_neg hm, merge, if_neg hxb, if_neg (hrange ▸ hm)]
          exact fun h => hab (congrArg newText (List.head_eq_of_cons_eq h))

/-- Joining an edit with a text a second time always shows. -/
theorem merge_join_ne {acc e : Edit} (rest : List Edit) (hm : e.range.meets acc.range = true)
    (htext : e.newText ≠ []) : merge ((acc.join e).join e) rest ≠ merge (acc.join e) rest := by
  have hcovers : (acc.join e).range.covers e.range := Range.union_covers_right _ _
  have hstart : (acc.join e).start < (acc.join e).stop :=
    lt_of_le_of_lt hcovers.1 (lt_of_lt_of_le (meets_iff.mp hm).1 hcovers.2)
  have hfirst : (acc.join e).newText ≠ [] := List.append_ne_nil_of_right_ne_nil _ htext
  have hsecond : ((acc.join e).join e).newText ≠ [] := List.append_ne_nil_of_right_ne_nil _ htext
  have hlonger : (acc.join e).newText ≠ ((acc.join e).join e).newText :=
    fun h => htext (List.append_right_eq_self.mp h.symm)
  exact (merge_ne_merge rest (join_join_range acc e).symm hstart hfirst hsecond hlonger).symm

/-- A second copy behind the first one makes a difference only if the edit has a text, and the
first copy is joined to an accumulator without coming out as it was. -/
theorem merge_twice_iff {acc e : Edit} {rest : List Edit} :
    merge acc (e :: e :: rest) = merge acc (e :: rest) ↔
      e.newText = [] ∨ (e.range.meets acc.range = true → acc = e ∨ acc.join e = e) := by
  by_cases hacc : e = acc
  · subst hacc
    rw [merge, if_pos rfl]
    exact iff_of_true rfl (Or.inr fun _ => Or.inl rfl)
  by_cases hm : e.range.meets acc.range = true
  · have hstep : ∀ rest, merge acc (e :: rest) = merge (acc.join e) rest := fun rest => by
      rw [merge, if_neg hacc, if_pos hm]
    rw [hstep, hstep]
    by_cases hjoin : acc.join e = e
    · rw [hjoin, merge, if_pos rfl]
      exact iff_of_true rfl (Or.inr fun _ => Or.inr rfl)
    · rw [merge, if_neg (Ne.symm hjoin), if_pos (meets_join hm)]
      constructor
      · exact fun h => Or.inl (not_not.mp fun htext => merge_join_ne rest hm htext h)
      · rintro (htext | hsame)
        · rw [join_join_of_deletion htext]
        · rcases hsame hm with h | h
          · exact absurd h.symm hacc
          · exact absurd h hjoin
  · rw [merge, if_neg hacc, if_neg hm, merge, if_pos rfl, merge, if_neg hacc, if_neg hm]
    exact iff_of_true rfl (Or.inr fun h => absurd h hm)

/-! ## Copies in the sort -/

/-- The first copy in the sort stands behind the edits that come before it in order. -/
theorem exists_sort_eq {edits : List Edit} {e : Edit} (he : e ∈ edits) :
    ∃ rest, sort edits = sort (edits.filter (· < e)) ++ e :: rest ∧
      sort (edits ++ [e]) = sort (edits.filter (· < e)) ++ e :: e :: rest := by
  obtain ⟨front, rest, hsort, hfirst⟩ := List.eq_append_cons_of_mem (mem_sort.mpr he)
  have hperm : (sort edits).Perm edits := List.mergeSort_perm edits Edit.le
  have hs := sort_pairwise edits
  rw [hsort] at hs hperm
  obtain ⟨hsfront, hsrest, hbetween⟩ := List.pairwise_append.mp hs
  obtain ⟨hbehind, -⟩ := List.pairwise_cons.mp hsrest
  have hfront : sort (edits.filter (· < e)) = front := by
    apply sort_eq_of_perm _ hsfront
    have hkept : (front ++ e :: rest).filter (· < e) = front := by
      have hlt : ∀ a ∈ front, a < e := fun a ha =>
        lt_of_le_of_ne (hbetween a ha e List.mem_cons_self) fun h => hfirst (h ▸ ha)
      have hge : ∀ a ∈ e :: rest, ¬ a < e := by
        intro a ha
        rcases List.mem_cons.mp ha with rfl | ha
        · exact lt_irrefl a
        · exact not_lt_of_ge (hbehind a ha)
      rw [List.filter_append, List.filter_eq_self.mpr fun a ha => decide_eq_true (hlt a ha),
        List.filter_eq_nil_iff.mpr fun a ha => by simpa using hge a ha, List.append_nil]
    exact hkept ▸ hperm.filter _
  refine ⟨rest, by rw [hfront, hsort], ?_⟩
  rw [hfront]
  apply sort_eq_of_perm
  · have hmiddle : (front ++ e :: e :: rest).Perm (e :: (front ++ e :: rest)) :=
      List.perm_middle
    exact hmiddle.trans ((hperm.cons e).trans (List.perm_append_singleton e edits).symm)
  · refine List.pairwise_append.mpr ⟨hsfront, List.pairwise_cons.mpr ⟨?_, hsrest⟩, ?_⟩
    · exact List.forall_mem_cons.mpr ⟨le_refl e, hbehind⟩
    · intro a ha
      exact List.forall_mem_cons.mpr ⟨hbetween a ha e List.mem_cons_self, hbetween a ha⟩

end Edit

/-! ## Normal batches -/

/-- **Repeated edits.** Giving an edit once more changes nothing exactly when it has no text, or
does not meet what the edits before it have come to, or comes out of joining them as it was. -/
theorem normalize_append_self_iff {edits : List Edit} {e : Edit} (he : e ∈ edits) :
    normalize (edits ++ [e]) = normalize edits ↔
      e.newText = [] ∨ ∀ last ∈ (normalize (edits.filter (· < e))).getLast?,
        e.range.meets last.range = true → last = e ∨ last.join e = e := by
  obtain ⟨rest, honce, htwice⟩ := Edit.exists_sort_eq he
  rw [normalize, htwice, normalize, honce, normalize]
  cases Edit.sort (edits.filter (· < e)) with
  | nil =>
    change Edit.merge e (e :: rest) = Edit.merge e rest ↔ _
    rw [Edit.merge, if_pos rfl]
    refine iff_of_true rfl (Or.inr ?_)
    intro last hlast
    cases hlast
  | cons first front =>
    obtain ⟨batch, acc, hfront, hrest⟩ := Edit.exists_merge_append first front
    simp only [List.cons_append, hrest, hfront, List.append_cancel_left_eq, Edit.merge_twice_iff,
      List.getLast?_concat, Option.mem_def, Option.some.injEq, forall_eq']

/-- A replacement, and another one within it. -/
def outer : Edit := ⟨⟨⟨0, 0⟩, ⟨0, 9⟩, by decide⟩, ['a']⟩

def inner : Edit := ⟨⟨⟨0, 5⟩, ⟨0, 8⟩, by decide⟩, ['b']⟩

/-- The outer one given twice changes nothing. -/
theorem normalize_append_self_outer :
    outer ∈ [outer, inner] ∧ normalize ([outer, inner] ++ [outer]) = normalize [outer, inner] := by
  have hbefore : [outer, inner].filter (· < outer) = [] := by decide
  refine ⟨by decide, (normalize_append_self_iff (by decide)).mpr (Or.inr ?_)⟩
  rw [hbefore, normalize_nil]
  intro last hlast
  cases hlast

/-- The inner one given twice leaves its text there twice. -/
theorem normalize_repeated :
    inner ∈ [outer, inner] ∧ normalize ([outer, inner] ++ [inner]) ≠ normalize [outer, inner] ∧
      applyAll (List.replicate 9 'x') (normalize ([outer, inner] ++ [inner])) =
        .ok ['a', 'b', 'b'] ∧
      applyAll (List.replicate 9 'x') (normalize [outer, inner]) = .ok ['a', 'b'] := by
  have honce : Edit.sort [outer, inner] = [outer, inner] :=
    List.mergeSort_of_pairwise (by decide)
  have htwice : Edit.sort ([outer, inner] ++ [inner]) = [outer, inner, inner] :=
    List.mergeSort_of_pairwise (by decide)
  rw [normalize, htwice, normalize, honce]
  decide

end TidyImports
