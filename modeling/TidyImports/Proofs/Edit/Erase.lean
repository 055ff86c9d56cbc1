import TidyImports.Proofs.Edit.Normalize
import TidyImports.Proofs.Edit.Splice

/-!
# Deletions

A batch of deletions, however they overlap, takes exactly the characters out of a text that lie in
the range of some deletion (`applyAll_normalize_of_deletions`). Two halves make this up:

* `covered_normalize`: the ranges of a normal batch cover the characters that the ranges it was made
  of cover. Two ranges that meet have no gap between them, so their union covers nothing more.
* `splice_eq_erase`: deletions that lie one behind the other leave what they do not cover.
-/

namespace TidyImports

/-! ## Offsets of the ends of a union -/

theorem inBounds_min {text : Text} {p q : Position} (hp : inBounds text p) (hq : inBounds text q) :
    inBounds text (min p q) := by
  rcases min_choice p q with h | h <;> rw [h] <;> assumption

theorem inBounds_max {text : Text} {p q : Position} (hp : inBounds text p) (hq : inBounds text q) :
    inBounds text (max p q) := by
  rcases max_choice p q with h | h <;> rw [h] <;> assumption

theorem offset_min {text : Text} {p q : Position} (hp : inBounds text p) (hq : inBounds text q) :
    offset text (min p q) = min (offset text p) (offset text q) := by
  rcases le_total p q with h | h
  · rw [min_eq_left h, min_eq_left (offset_le_offset hp hq h)]
  · rw [min_eq_right h, min_eq_right (offset_le_offset hq hp h)]

theorem offset_max {text : Text} {p q : Position} (hp : inBounds text p) (hq : inBounds text q) :
    offset text (max p q) = max (offset text p) (offset text q) := by
  rcases le_total p q with h | h
  · rw [max_eq_right h, max_eq_right (offset_le_offset hp hq h)]
  · rw [max_eq_left h, max_eq_left (offset_le_offset hq hp h)]

namespace Edit

theorem fits_join {text : Text} {a b : Edit} (ha : a.fits text) (hb : b.fits text) :
    (a.join b).fits text := by
  rw [fits, join_start, join_stop]
  exact ⟨inBounds_min ha.1 hb.1, inBounds_max ha.2 hb.2⟩

/-! ## What the walk covers -/

/-- Between two ranges that meet there is no gap. -/
theorem within_join_iff {text : Text} {a b : Edit} (ha : a.fits text) (hb : b.fits text)
    (hm : b.range.meets a.range = true) (n : Nat) :
    offset text (a.join b).start ≤ n ∧ n < offset text (a.join b).stop ↔
      (offset text a.start ≤ n ∧ n < offset text a.stop) ∨
        (offset text b.start ≤ n ∧ n < offset text b.stop) := by
  obtain ⟨-, -, hba, hab⟩ := meets_iff.mp hm
  have h₁ := offset_le_offset hb.1 ha.2 (le_of_lt hba)
  have h₂ := offset_le_offset ha.1 hb.2 (le_of_lt hab)
  rw [join_start, join_stop, offset_min ha.1 hb.1, offset_max ha.2 hb.2]
  omega

end Edit

theorem covered_iff {text : Text} {edits : List Edit} {n : Nat} :
    covered text edits n = true ↔
      ∃ e ∈ edits, offset text e.start ≤ n ∧ n < offset text e.stop := by
  simp [covered]

theorem covered_cons (text : Text) (e : Edit) (edits : List Edit) (n : Nat) :
    covered text (e :: edits) n =
      (decide (offset text e.start ≤ n ∧ n < offset text e.stop) || covered text edits n) := by
  simp [covered]

theorem covered_merge {text : Text} {last : Edit} {rest : List Edit}
    (hfit : ∀ e ∈ last :: rest, e.fits text) (n : Nat) :
    covered text (Edit.merge last rest) n = covered text (last :: rest) n := by
  fun_induction Edit.merge last rest with
  | case1 last => rfl
  | case2 rest e ih =>
    rw [ih fun x hx => hfit x (List.mem_cons_of_mem _ hx)]
    simp only [covered_cons, ← Bool.or_assoc, Bool.or_self]
  | case3 last e rest _ hm ih =>
    have hlast : last.fits text := hfit last (by simp)
    have he : e.fits text := hfit e (by simp)
    rw [ih]
    · simp only [covered_cons, Edit.within_join_iff hlast he hm, Bool.decide_or, Bool.or_assoc]
    · intro x hx
      rcases List.mem_cons.mp hx with rfl | hx
      · exact Edit.fits_join hlast he
      · exact hfit x (by simp [hx])
  | case4 last e rest _ _ ih =>
    rw [covered_cons, covered_cons, ih fun x hx => hfit x (List.mem_cons_of_mem _ hx)]

theorem covered_sort (text : Text) (edits : List Edit) (n : Nat) :
    covered text (Edit.sort edits) n = covered text edits n :=
  (List.mergeSort_perm edits Edit.le).any_eq

/-- Normalizing changes nothing about what is covered. -/
theorem covered_normalize {text : Text} {edits : List Edit} (hfit : ∀ e ∈ edits, e.fits text)
    (n : Nat) : covered text (normalize edits) n = covered text edits n := by
  have hs : ∀ e ∈ Edit.sort edits, e.fits text := fun e he => hfit e (Edit.mem_sort.mp he)
  rw [← covered_sort text edits, normalize]
  cases hsort : Edit.sort edits with
  | nil => rfl
  | cons e rest => exact covered_merge (hsort ▸ hs) n

/-! ## What is left -/

/-- The characters of a text at the places that are kept, if its first place is number `first`. -/
def keep (kept : Nat → Bool) (first : Nat) (text : Text) : Text :=
  ((text.zipIdx first).filter fun p => kept p.2).map (·.1)

section

variable {kept : Nat → Bool} {first : Nat}

theorem keep_append (a b : Text) :
    keep kept first (a ++ b) = keep kept first a ++ keep kept (first + a.length) b := by
  rw [keep, List.zipIdx_append, List.filter_append, List.map_append]
  rfl

theorem keep_eq_self {text : Text} (h : ∀ i, first ≤ i → i < first + text.length → kept i = true) :
    keep kept first text = text := by
  have hall : (text.zipIdx first).filter (fun p => kept p.2) = text.zipIdx first := by
    rw [List.filter_eq_self]
    intro p hp
    obtain ⟨hlow, hhigh, -⟩ := List.mem_zipIdx hp
    exact h p.2 hlow hhigh
  rw [keep, hall, List.zipIdx_map_fst]

theorem keep_eq_nil {text : Text} (h : ∀ i, first ≤ i → i < first + text.length → kept i = false) :
    keep kept first text = [] := by
  have hnone : (text.zipIdx first).filter (fun p => kept p.2) = [] := by
    rw [List.filter_eq_nil_iff]
    intro p hp
    obtain ⟨hlow, hhigh, -⟩ := List.mem_zipIdx hp
    rw [h p.2 hlow hhigh]
    exact Bool.false_ne_true
  rw [keep, hnone, List.map_nil]

theorem keep_congr {other : Nat → Bool} {text : Text} (h : ∀ i, first ≤ i → kept i = other i) :
    keep kept first text = keep other first text := by
  rw [keep, keep]
  congr 1
  apply List.filter_congr
  intro p hp
  exact h p.2 (List.mem_zipIdx hp).1

end

/-- A text cut at the place `j`, each part with the numbers of its places. -/
theorem keep_drop_eq_append (kept : Nat → Bool) {text : Text} {i j : Nat} (h : i ≤ j)
    (hj : j ≤ text.length) :
    keep kept i (text.drop i) =
      keep kept i ((text.take j).drop i) ++ keep kept j (text.drop j) := by
  have hlen : (text.take j).length = j := List.length_take_of_le hj
  have hcut : text.drop i = (text.take j).drop i ++ text.drop j := by
    rw [← List.drop_append_of_le_length (hlen.symm ▸ h), List.take_append_drop]
  rw [hcut, keep_append, List.length_drop, hlen, Nat.add_sub_cancel' h]

theorem keep_drop_eq_of_cut {kept : Nat → Bool} {text : Text} {i j k : Nat} (hij : i ≤ j)
    (hjk : j ≤ k) (hk : k ≤ text.length) (hbefore : ∀ n, i ≤ n → n < j → kept n = true)
    (hgone : ∀ n, j ≤ n → n < k → kept n = false) :
    keep kept i (text.drop i) = (text.take j).drop i ++ keep kept k (text.drop k) := by
  have hfirst : keep kept i ((text.take j).drop i) = (text.take j).drop i := by
    apply keep_eq_self
    intro n hlow hn
    rw [List.length_drop, List.length_take] at hn
    exact hbefore n hlow (by omega)
  have hsecond : keep kept j ((text.take k).drop j) = [] := by
    apply keep_eq_nil
    intro n hlow hn
    rw [List.length_drop, List.length_take] at hn
    exact hgone n hlow (by omega)
  rw [keep_drop_eq_append kept hij (hjk.trans hk), hfirst, keep_drop_eq_append kept hjk hk, hsecond,
    List.nil_append]

theorem covered_eq_false_of_lt {text : Text} {edits : List Edit} {n : Nat}
    (h : ∀ e ∈ edits, n < offset text e.start) : covered text edits n = false := by
  rw [← Bool.not_eq_true, covered_iff]
  rintro ⟨e, he, hstart, -⟩
  have := h e he
  omega

/-- One deletion after the other: what lies before it is kept, what it covers is not, and what lies
behind it is left to the deletions behind it. -/
theorem spliceFrom_eq_keep {text : Text} {batch : Batch} {done : Nat}
    (hp : batch.Pairwise fun a b => a.stop ≤ b.start) (hfit : ∀ e ∈ batch, e.fits text)
    (hdel : ∀ e ∈ batch, e.newText = []) (hdone : ∀ e ∈ batch, done ≤ offset text e.start) :
    spliceFrom text done batch = keep (fun n => !covered text batch n) done (text.drop done) := by
  induction batch generalizing done with
  | nil =>
    rw [keep_eq_self]
    · rfl
    · intro n _ _
      rfl
  | cons e rest ih =>
    obtain ⟨hbehind, hrest⟩ := List.pairwise_cons.mp hp
    have he : e.fits text := hfit e List.mem_cons_self
    have hfit' : ∀ f ∈ rest, f.fits text := fun f hf => hfit f (List.mem_cons_of_mem _ hf)
    have hdel' : ∀ f ∈ rest, f.newText = [] := fun f hf => hdel f (List.mem_cons_of_mem _ hf)
    have hstart : done ≤ offset text e.start := hdone e List.mem_cons_self
    have horder : offset text e.start ≤ offset text e.stop :=
      offset_le_offset he.1 he.2 e.start_le_stop
    have hstop : offset text e.stop ≤ text.length := offset_le_length he.2
    have hnext : ∀ f ∈ rest, offset text e.stop ≤ offset text f.start :=
      fun f hf => offset_le_offset he.2 (hfit' f hf).1 (hbehind f hf)
    have hbefore : ∀ n, done ≤ n → n < offset text e.start →
        (!covered text (e :: rest) n) = true := by
      intro n _ hn
      rw [covered_eq_false_of_lt, Bool.not_false]
      intro f hf
      rcases List.mem_cons.mp hf with rfl | hf
      · exact hn
      · exact lt_of_lt_of_le hn (horder.trans (hnext f hf))
    have hgone : ∀ n, offset text e.start ≤ n → n < offset text e.stop →
        (!covered text (e :: rest) n) = false := by
      intro n hlow hn
      rw [covered_iff.mpr ⟨e, List.mem_cons_self, hlow, hn⟩, Bool.not_true]
    have hafter : ∀ n, offset text e.stop ≤ n →
        (!covered text (e :: rest) n) = !covered text rest n := by
      intro n hn
      rw [covered_cons, decide_eq_false (by omega), Bool.false_or]
    rw [spliceFrom, hdel e List.mem_cons_self, List.append_nil, ih hrest hfit' hdel' hnext,
      keep_drop_eq_of_cut hstart horder hstop hbefore hgone, keep_congr hafter]

theorem splice_eq_erase {text : Text} {batch : Batch}
    (hp : batch.Pairwise fun a b => a.stop ≤ b.start) (hfit : ∀ e ∈ batch, e.fits text)
    (hdel : ∀ e ∈ batch, e.newText = []) : splice text batch = erase text batch :=
  spliceFrom_eq_keep hp hfit hdel fun _ _ => Nat.zero_le _

/-! ## Normal batches of deletions -/

theorem erase_normalize {text : Text} {edits : List Edit} (hfit : ∀ e ∈ edits, e.fits text) :
    erase text (normalize edits) = erase text edits := by
  rw [erase, erase]
  simp only [covered_normalize hfit]

/-- **Deletions.** Deletions in a text, in any order and however they overlap, nest or repeat, are
never refused, and what is left of the text are its characters outside all of their ranges. -/
theorem applyAll_normalize_of_deletions (text : Text) (edits : List Edit)
    (hdel : ∀ e ∈ edits, e.start < e.stop ∧ e.newText = [])
    (hin : ∀ e ∈ edits, inBounds text e.start ∧ inBounds text e.stop) :
    applyAll text (normalize edits) = .ok (erase text edits) := by
  have hp : (normalize edits).Pairwise fun a b => a.stop ≤ b.start := by
    apply normalize_pairwise
    intro e he hempty
    exact absurd (Edit.empty_iff.mp hempty) (ne_of_lt (hdel e he).1)
  have hfit : ∀ e ∈ normalize edits, e.fits text :=
    forall_mem_normalize (fun _ _ => Edit.fits_join) hin
  have hnew : ∀ e ∈ normalize edits, e.newText = [] := by
    apply forall_mem_normalize
    · intro a b ha hb
      rw [Edit.join, ha, hb]
      rfl
    · exact fun e he => (hdel e he).2
  rw [applyAll_of_fits hp.isChain hfit, splice_eq_erase hp hfit hnew, erase_normalize hin]

/-- Ranges over several lines, one of them twice, one inside another, and given backwards. -/
theorem applyAll_normalize_of_deletions_lines :
    applyAll ['a', 'b', '\n', 'c', 'd', '\n', 'e', 'f']
      (normalize [⟨⟨⟨1, 1⟩, ⟨2, 1⟩, by decide⟩, []⟩, ⟨⟨⟨1, 0⟩, ⟨1, 1⟩, by decide⟩, []⟩,
        ⟨⟨⟨0, 1⟩, ⟨1, 1⟩, by decide⟩, []⟩, ⟨⟨⟨1, 1⟩, ⟨2, 1⟩, by decide⟩, []⟩]) = .ok ['a', 'f'] :=
  applyAll_normalize_of_deletions _ _ (by decide) (by decide)

end TidyImports
