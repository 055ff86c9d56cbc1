import Mathlib.Data.List.Nodup
import TidyImports.Data.Value

/-!
# Tables with one entry set

* `get?_put` — what is found under each key after one was set;
* `mem_put`, `nodup_keys_put`, `put_of_notMem` — which entries and keys there are then;
* `SameBut` — two tables with the same entries in the same order but at one key.
-/

namespace TidyImports.Table

theorem get?_cons (key k : String) (v : Value) (rest : Table) :
    Table.get? ((k, v) :: rest) key = if key = k then some v else Table.get? rest key := by
  by_cases hk : key = k
  · simp [get?, hk]
  · simp [get?, hk, List.lookup_cons, beq_eq_false_iff_ne.mpr hk]

/-! ## Setting a key -/

theorem get?_put (t : Table) (key k : String) (v : Value) :
    (t.put key v).get? k = if k = key then some v else t.get? k := by
  induction t with
  | nil =>
    simp only [put, get?, List.lookup_cons, List.lookup_nil]
    by_cases hk : k = key
    · simp [hk]
    · simp [hk, beq_eq_false_iff_ne.mpr hk]
  | cons e rest ih =>
    obtain ⟨l, w⟩ := e
    by_cases hl : l = key
    · subst hl
      by_cases hk : k = l
      · simp [put, get?, hk]
      · simp [put, get?, hk, List.lookup_cons, beq_eq_false_iff_ne.mpr hk]
    · rw [put, if_neg hl]
      by_cases hkl : k = l
      · subst hkl
        simp [get?, hl]
      · simp only [get?, List.lookup_cons, beq_eq_false_iff_ne.mpr hkl] at ih ⊢
        exact ih

theorem mem_put {t : Table} {key : String} {v : Value} {e : String × Value}
    (h : e ∈ t.put key v) : e ∈ t ∨ e.2 = v := by
  induction t with
  | nil => exact Or.inr (by rw [List.mem_singleton.mp h])
  | cons f rest ih =>
    obtain ⟨k, w⟩ := f
    rw [put] at h
    split at h
    · rcases List.mem_cons.mp h with rfl | h
      · exact Or.inr rfl
      · exact Or.inl (List.mem_cons_of_mem _ h)
    · rcases List.mem_cons.mp h with rfl | h
      · exact Or.inl List.mem_cons_self
      · exact (ih h).imp_left (List.mem_cons_of_mem _)

theorem nodup_keys_put {t : Table} (h : t.keys.Nodup) (key : String) (v : Value) :
    (t.put key v).keys.Nodup := by
  by_cases hm : key ∈ t.keys
  · rwa [keys_put_of_mem v hm]
  · rw [keys_put_of_notMem v hm]
    exact h.append (List.nodup_singleton key) (by simpa using hm)

theorem put_of_notMem {t : Table} {key : String} (v : Value) (h : key ∉ t.keys) :
    t.put key v = t ++ [(key, v)] := by
  induction t with
  | nil => rfl
  | cons e rest ih =>
    obtain ⟨k, w⟩ := e
    rw [keys, List.map_cons, List.mem_cons, not_or] at h
    rw [put, if_neg (Ne.symm h.1), ih h.2, List.cons_append]

theorem notMem_keys_of_nodup {before after : Table} {key : String} {v : Value}
    (h : (keys (before ++ (key, v) :: after)).Nodup) : key ∉ before.keys := by
  rw [keys, List.map_append, List.nodup_append] at h
  intro hmem
  exact h.2.2 key hmem key (by simp) rfl

theorem mem_of_get? {t : Table} {key : String} {v : Value} (h : t.get? key = some v) :
    (key, v) ∈ t := by
  obtain ⟨before, after, heq, -⟩ := List.lookup_eq_some_iff.mp h
  rw [heq]
  simp

theorem mem_keys_of_get? {t : Table} {key : String} {v : Value} (h : t.get? key = some v) :
    key ∈ t.keys :=
  List.mem_map.mpr ⟨(key, v), mem_of_get? h, rfl⟩

/-! ## Tables that differ at one key -/

/-- The same entries in the same order but for those of the key, which keeps its place or, where it
was missing, stands at the end. -/
structure SameBut (key : String) (t t' : Table) : Prop where
  keys : t'.keys = if key ∈ t.keys then t.keys else t.keys ++ [key]
  other : ∀ k, k ≠ key → t'.get? k = t.get? k

theorem sameBut_put (t : Table) (key : String) (v : Value) : SameBut key t (t.put key v) := by
  constructor
  · split
    · rename_i h
      exact keys_put_of_mem v h
    · rename_i h
      exact keys_put_of_notMem v h
  · intro k hk
    rw [get?_put, if_neg hk]

theorem SameBut.trans {key : String} {t t' t'' : Table} (h : SameBut key t t')
    (h' : SameBut key t' t'') : SameBut key t t'' := by
  constructor
  · rw [h'.keys, h.keys]
    split
    · rfl
    · simp
  · intro k hk
    rw [h'.other k hk, h.other k hk]

end TidyImports.Table
