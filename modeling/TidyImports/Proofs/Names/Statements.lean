import TidyImports.Proofs.Names.Reported

/-!
# The statements of names

`extend` adds the statements that are not there yet, and `importsFor` adds up those of several
names. Statements count as the same when they are equal values.

* `mem_of_mem_extend`, `held_extend`, `distinct_extend` — nothing is invented, nothing is lost,
  nothing is there twice;
* `exists_of_mem_importsFor`, `held_importsFor`, `distinct_importsFor` — the same of all the
  statements of some names.
-/

namespace TidyImports

/-- The value is in the list, itself or as one equal to it. -/
def Value.Held (v : Value) (vs : List Value) : Prop := v ∈ vs ∨ ∃ w ∈ vs, v.same w = true

/-- No value is equal to one before it. -/
def Value.Distinct (vs : List Value) : Prop := vs.Pairwise fun v w => w.same v = false

theorem Value.Held.append {v : Value} {vs : List Value} (h : v.Held vs) (more : List Value) :
    v.Held (vs ++ more) := by
  rcases h with h | ⟨w, hw, hsame⟩
  · exact Or.inl (List.mem_append_left more h)
  · exact Or.inr ⟨w, List.mem_append_left more hw, hsame⟩

/-- A text is equal to itself only. -/
theorem Value.same_text_iff {v : Value} {s : String} : v.same (.text s) = true ↔ v = .text s := by
  cases v with
  | text t => simp [same, sameBy, sameScalar]
  | _ => simp [same, sameBy, sameScalar, amount?]

theorem Value.text_same_iff {v : Value} {s : String} :
    (Value.text s).same v = true ↔ v = .text s := by
  cases v with
  | text t =>
    simp only [same, sameBy, sameScalar, beq_iff_eq, text.injEq]
    exact eq_comm
  | _ => simp [same, sameBy, sameScalar, amount?]

theorem Value.held_text_iff {s : String} {vs : List Value} :
    (Value.text s).Held vs ↔ Value.text s ∈ vs := by
  constructor
  · rintro (h | ⟨w, hw, heq⟩)
    · exact h
    · rwa [← text_same_iff.mp heq]
  · exact Or.inl

/-! ## Adding statements -/

theorem mem_of_mem_extend {imports more : List Value} {v : Value} (h : v ∈ extend imports more) :
    v ∈ imports ∨ v ∈ more := by
  induction more generalizing imports with
  | nil => exact Or.inl h
  | cons s rest ih =>
    rw [extend] at h
    rcases ih h with hin | hrest
    · split at hin
      · exact Or.inl hin
      · rcases List.mem_append.mp hin with hin | hs
        · exact Or.inl hin
        · exact Or.inr (List.mem_cons.mpr (Or.inl (List.mem_singleton.mp hs)))
    · exact Or.inr (List.mem_cons_of_mem s hrest)

theorem held_extend_left {imports : List Value} {v : Value} (h : v.Held imports)
    (more : List Value) : v.Held (extend imports more) := by
  induction more generalizing imports with
  | nil => exact h
  | cons s rest ih =>
    rw [extend]
    split
    · exact ih h
    · exact ih (h.append [s])

theorem held_extend (imports : List Value) {more : List Value} {v : Value} (h : v ∈ more) :
    v.Held (extend imports more) := by
  induction more generalizing imports with
  | nil => cases h
  | cons s rest ih =>
    rw [extend]
    rcases List.mem_cons.mp h with rfl | hrest
    · refine held_extend_left ?_ rest
      split
      · rename_i hany
        exact Or.inr (List.any_eq_true.mp hany)
      · exact Or.inl (by simp)
    · exact ih _ hrest

theorem distinct_extend {imports : List Value} (h : Value.Distinct imports) (more : List Value) :
    Value.Distinct (extend imports more) := by
  induction more generalizing imports with
  | nil => exact h
  | cons s rest ih =>
    rw [extend]
    split
    · exact ih h
    · rename_i hany
      refine ih (List.pairwise_append.mpr ⟨h, List.pairwise_singleton _ _, fun v hv w hw => ?_⟩)
      rw [List.mem_singleton.mp hw]
      exact Bool.eq_false_iff.mpr fun hsame => hany (List.any_eq_true.mpr ⟨v, hv, hsame⟩)

/-! ## The statements of several names -/

theorem ImportMap.has_of_mem_statements {map : ImportMap} {name : String} {v : Value}
    (h : v ∈ map.statements name) : map.has name = true := by
  unfold statements at h
  unfold has
  cases hget : map.get? name with
  | none =>
    rw [hget] at h
    cases h
  | some vs => rfl

theorem exists_of_mem_importsFor {names : List String} {map : ImportMap} {v : Value}
    (h : v ∈ importsFor names map) : ∃ name ∈ names, v ∈ map.statements name := by
  rcases mem_of_mem_extend h with h | h
  · cases h
  · obtain ⟨name, hname, hv⟩ := List.mem_flatMap.mp h
    exact ⟨name, mem_sortNames.mp hname, hv⟩

theorem held_importsFor {names : List String} {map : ImportMap} {name : String}
    (hname : name ∈ names) {v : Value} (hv : v ∈ map.statements name) :
    v.Held (importsFor names map) :=
  held_extend [] (List.mem_flatMap.mpr ⟨name, mem_sortNames.mpr hname, hv⟩)

theorem distinct_importsFor (names : List String) (map : ImportMap) :
    Value.Distinct (importsFor names map) :=
  distinct_extend List.Pairwise.nil _

end TidyImports
