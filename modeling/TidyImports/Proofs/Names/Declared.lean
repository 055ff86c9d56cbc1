import Mathlib.Data.List.Sort
import Mathlib.Data.String.Basic
import TidyImports.Proofs.Format.Passes

/-!
# The statements that are declared for names

Settings declare statements for names, any of them more than once. The import map collects what is
declared for each name, and `importsFor` what is declared for some names, each statement at the
first place where it stands: names come in their order, the statements of a name as they are
declared.

* `sortNames_sorted`, `sortNames_congr` — the names in order, each once;
* `statements_foldl_add` — the statements of a name in the map of some entries;
* `importsFor_declared` — the statements of some names, without the map;
* `dedup_map_first` — what is left of a list is ordered by where it was met first;
* `importsFor_ofEntries` — which statements these are, and in what order.
-/

namespace TidyImports

/-! ## Names in order -/

theorem sortNames_sorted (names : List String) : (sortNames names).Pairwise (· < ·) := by
  have hle : (sortNames names).Pairwise (· ≤ ·) := List.pairwise_mergeSort' (· ≤ ·) (dedup names)
  have honce : (sortNames names).Nodup :=
    (List.mergeSort_perm _ _).nodup_iff.mpr (nodup_dedup names)
  exact (hle.and honce).imp fun h => lt_of_le_of_ne h.1 h.2

/-- The order and the repetitions of names do not matter. -/
theorem sortNames_congr {names names' : List String} (h : ∀ name, name ∈ names ↔ name ∈ names') :
    sortNames names = sortNames names' := by
  refine (sortNames_sorted names).eq_of_mem_iff (sortNames_sorted names') fun name => ?_
  rw [mem_sortNames, mem_sortNames, h]

/-! ## Each text once -/

theorem dedup_append (xs ys : List String) :
    dedup (xs ++ ys) = dedup xs ++ (dedup ys).filter (· ∉ xs) := by
  induction xs with
  | nil => simp [dedup]
  | cons x xs ih =>
    rw [List.cons_append, dedup, dedup, ih, List.filter_append, List.filter_filter, List.cons_append]
    congr 2
    refine List.filter_congr fun y _ => ?_
    simp [not_or]

theorem dedup_of_nodup {xs : List String} (h : xs.Nodup) : dedup xs = xs := by
  induction xs with
  | nil => rfl
  | cons x xs ih =>
    obtain ⟨hx, hxs⟩ := List.nodup_cons.mp h
    rw [dedup, ih hxs, List.filter_eq_self.mpr]
    intro y hy
    exact decide_eq_true (ne_of_mem_of_not_mem hy hx)

/-- Repetitions within a part are gone in the end as well. -/
theorem dedup_flatMap_dedup {α : Type} (f : α → List String) (xs : List α) :
    dedup (xs.flatMap fun x => dedup (f x)) = dedup (xs.flatMap f) := by
  induction xs with
  | nil => rfl
  | cons x xs ih =>
    rw [List.flatMap_cons, List.flatMap_cons, dedup_append, dedup_append, ih,
      dedup_of_nodup (nodup_dedup _)]
    simp only [mem_dedup]

theorem extend_nil_texts (texts : List String) :
    extend [] (texts.map .text) = (dedup texts).map .text := by
  obtain ⟨added, hextend, hsub, hmem⟩ := extend_texts [] texts
  have hperm : added.Perm (dedup texts) := by
    rw [List.perm_ext_iff_of_nodup ((nodup_dedup texts).sublist hsub) (nodup_dedup texts)]
    intro s
    simp [hmem, mem_dedup]
  rw [hextend, hsub.eq_of_length hperm.length_eq, List.nil_append]

theorem extend_append (imports more rest : List Value) :
    extend imports (more ++ rest) = extend (extend imports more) rest := by
  induction more generalizing imports with
  | nil => rfl
  | cons s more ih => rw [List.cons_append, extend, extend, ih]

/-! ## Import maps -/

namespace ImportMap

theorem statements_cons (name : Value) (statements : List Value) (rest : ImportMap) (s : String) :
    ImportMap.statements ((name, statements) :: rest) s =
      if name.same (.text s) then statements else ImportMap.statements rest s := by
  rw [ImportMap.statements, get?, List.find?_cons]
  cases name.same (.text s) <;> rfl

/-- Adding an entry changes what is declared for its own name only. -/
theorem statements_add (map : ImportMap) (a : AutoImport) (s : String) :
    (map.add a).statements s =
      if a.name.same (.text s) then extend (map.statements s) [a.statement]
      else map.statements s := by
  induction map with
  | nil =>
    rw [add, statements_cons]
    rfl
  | cons entry rest ih =>
    obtain ⟨name, sts⟩ := entry
    rw [add, apply_ite (ImportMap.statements · s), statements_cons, statements_cons, statements_cons,
      ih]
    by_cases hname : name = .text s
    · subst hname
      have hself : (Value.text s).same (.text s) = true := Value.same_text_iff.mpr rfl
      by_cases ha : a.name = .text s
      · rw [ha, if_pos hself, if_pos hself, if_pos hself, if_pos hself]
      · rw [if_neg (fun h => ha (Value.text_same_iff.mp h)), if_pos hself,
          if_neg (fun h => ha (Value.same_text_iff.mp h)), if_pos hself]
    · have hskip : ¬ name.same (.text s) = true := fun h => hname (Value.same_text_iff.mp h)
      rw [if_neg hskip, if_neg hskip, if_neg hskip]
      -- An entry of that name belongs further down.
      by_cases ha : a.name.same (.text s) = true
      · rw [Value.same_text_iff.mp ha, if_neg hskip]
      · rw [if_neg ha, ite_self]

/-- What is declared for a name, in the order of the entries. -/
theorem statements_foldl_add (entries : List AutoImport) (map : ImportMap) (s : String) :
    (entries.foldl add map).statements s =
      extend (map.statements s)
        ((entries.filter fun a => a.name.same (.text s)).map (·.statement)) := by
  induction entries generalizing map with
  | nil => rfl
  | cons a rest ih =>
    rw [List.foldl_cons, ih, statements_add, List.filter_cons]
    split
    · exact (extend_append (map.statements s) [a.statement] _).symm
    · rfl

end ImportMap

/-- Names with a statement each, as a configuration declares them. -/
abbrev Declarations := List (String × String)

namespace Declarations

variable (entries : Declarations)

def autoImports : List AutoImport := entries.map fun e => .ofTexts e.1 e.2

/-- The statements that are declared for a name. -/
def statementsOf (name : String) : List String := (entries.filter (·.1 = name)).map (·.2)

theorem ofEntries_autoImports :
    ImportMap.ofEntries entries.autoImports = .ok (entries.autoImports.foldl ImportMap.add []) := by
  refine if_pos (List.all_eq_true.mpr fun a ha => ?_)
  obtain ⟨e, -, rfl⟩ := List.mem_map.mp ha
  rfl

theorem statements_autoImports (name : String) :
    ImportMap.statements (entries.autoImports.foldl ImportMap.add []) name =
      (dedup (entries.statementsOf name)).map .text := by
  have hsame : ∀ e : String × String,
      (AutoImport.ofTexts e.1 e.2).name.same (.text name) = decide (e.1 = name) := by
    intro e
    rw [Bool.eq_iff_iff, Value.same_text_iff, decide_eq_true_iff]
    exact Value.text.injEq e.1 name ▸ Iff.rfl
  rw [ImportMap.statements_foldl_add, autoImports, List.filter_map, List.map_map,
    ← extend_nil_texts, statementsOf, List.map_map]
  simp only [Function.comp_def, hsame]
  rfl

theorem importsFor_declared (names : List String) :
    importsFor names (entries.autoImports.foldl ImportMap.add []) =
      (dedup ((sortNames names).flatMap entries.statementsOf)).map .text := by
  have hstatements : ImportMap.statements (entries.autoImports.foldl ImportMap.add []) =
      fun name => (dedup (entries.statementsOf name)).map .text :=
    funext entries.statements_autoImports
  rw [importsFor, hstatements, ← List.map_flatMap, extend_nil_texts, dedup_flatMap_dedup]

end Declarations

/-! ## First places -/

section

variable {α : Type} {before : α → α → Prop} {label : α → String} {xs : List α}

/-- The label is met here, and at every other place only later. -/
def MetFirst (before : α → α → Prop) (label : α → String) (xs : List α) (s : String) (a : α) : Prop :=
  a ∈ xs ∧ label a = s ∧ ∀ b ∈ xs, label b = s → b = a ∨ before a b

theorem MetFirst.cons {s : String} {a x : α} (h : MetFirst before label xs s a) (hx : label x ≠ s) :
    MetFirst before label (x :: xs) s a := by
  obtain ⟨hmem, hlabel, hfirst⟩ := h
  refine ⟨List.mem_cons_of_mem x hmem, hlabel, fun b hb hs => ?_⟩
  rcases List.mem_cons.mp hb with rfl | hb
  · exact absurd hs hx
  · exact hfirst b hb hs

theorem metFirst_head {x : α} (h : (x :: xs).Pairwise before) :
    MetFirst before label (x :: xs) (label x) x := by
  refine ⟨List.mem_cons_self, rfl, fun b hb _ => ?_⟩
  rcases List.mem_cons.mp hb with rfl | hb
  · exact Or.inl rfl
  · exact Or.inr ((List.pairwise_cons.mp h).1 b hb)

theorem exists_metFirst (h : xs.Pairwise before) {s : String} (hs : s ∈ xs.map label) :
    ∃ a, MetFirst before label xs s a := by
  induction xs with
  | nil => cases hs
  | cons x xs ih =>
    by_cases hx : label x = s
    · exact ⟨x, hx ▸ metFirst_head h⟩
    · have hrest : s ∈ xs.map label := (List.mem_cons.mp hs).resolve_left (Ne.symm hx)
      obtain ⟨a, ha⟩ := ih (List.pairwise_cons.mp h).2 hrest
      exact ⟨a, ha.cons hx⟩

/-- Where each label is left at its first place, the labels are in the order of these places. -/
theorem dedup_map_first (h : xs.Pairwise before) :
    (dedup (xs.map label)).Pairwise fun s t =>
      ∃ a b, MetFirst before label xs s a ∧ MetFirst before label xs t b ∧ before a b := by
  induction xs with
  | nil => exact List.Pairwise.nil
  | cons x xs ih =>
    obtain ⟨hx, hxs⟩ := List.pairwise_cons.mp h
    have hne : ∀ s ∈ (dedup (xs.map label)).filter (· ≠ label x), label x ≠ s :=
      fun s hs => Ne.symm (of_decide_eq_true (List.mem_filter.mp hs).2)
    rw [List.map_cons, dedup, List.pairwise_cons]
    constructor
    · intro t ht
      obtain ⟨b, hb⟩ := exists_metFirst hxs (mem_dedup.mp (List.mem_filter.mp ht).1)
      exact ⟨x, b, metFirst_head h, hb.cons (hne t ht), hx b hb.1⟩
    · refine ((ih hxs).filter _).imp_of_mem ?_
      rintro s t hs ht ⟨a, b, ha, hb, hab⟩
      exact ⟨a, b, ha.cons (hne s hs), hb.cons (hne t ht), hab⟩

end

/-! ## The order of declarations -/

namespace Declarations

variable (entries : Declarations)

/-- An entry and its place among the entries. -/
abbrev Placed := (String × String) × Nat

/-- Names count first, then places. -/
def Before (a b : Placed) : Prop := a.1.1 < b.1.1 ∨ a.1.1 = b.1.1 ∧ a.2 < b.2

/-- The entries for some names, by name and then by place. -/
def placed (names : List String) : List Placed :=
  (sortNames names).flatMap fun name => entries.zipIdx.filter (·.1.1 = name)

theorem mem_placed {names : List String} {a : Placed} :
    a ∈ entries.placed names ↔ a.1.1 ∈ names ∧ entries[a.2]? = some a.1 := by
  simp only [placed, List.mem_flatMap, mem_sortNames, List.mem_filter, decide_eq_true_eq,
    List.mem_zipIdx_iff_getElem?]
  constructor
  · rintro ⟨name, hname, hplace, rfl⟩
    exact ⟨hname, hplace⟩
  · rintro ⟨hname, hplace⟩
    exact ⟨_, hname, hplace, rfl⟩

theorem placed_pairwise (names : List String) : (entries.placed names).Pairwise Before := by
  refine List.pairwise_flatMap.mpr ⟨fun name _ => ?_, ?_⟩
  · have hplaces : entries.zipIdx.Pairwise (fun a b => a.2 < b.2) := by
      rw [← List.pairwise_map (f := Prod.snd), List.zipIdx_map_snd]
      exact List.pairwise_lt_range'
    refine (hplaces.filter _).imp_of_mem fun ha hb hab => Or.inr ⟨?_, hab⟩
    rw [of_decide_eq_true (List.mem_filter.mp ha).2, of_decide_eq_true (List.mem_filter.mp hb).2]
  · refine (sortNames_sorted names).imp fun hlt a ha b hb => Or.inl ?_
    rwa [of_decide_eq_true (List.mem_filter.mp ha).2, of_decide_eq_true (List.mem_filter.mp hb).2]

theorem placed_statements (names : List String) :
    (entries.placed names).map (·.1.2) = (sortNames names).flatMap entries.statementsOf := by
  have hname : ∀ name, (entries.zipIdx.filter (·.1.1 = name)).map (·.1.2) =
      entries.statementsOf name := by
    intro name
    have hentries : entries.zipIdx.map Prod.fst = entries := List.zipIdx_map_fst 0 entries
    conv_rhs => rw [statementsOf, ← hentries, List.filter_map, List.map_map]
    rfl
  rw [placed, List.map_flatMap]
  exact congrArg ((sortNames names).flatMap ·) (funext hname)

/-- The first place of a statement among the entries for some names. -/
def FirstFor (names : List String) (statement : String) (a : Placed) : Prop :=
  (a.1.1 ∈ names ∧ entries[a.2]? = some a.1 ∧ a.1.2 = statement) ∧
    ∀ b : Placed, b.1.1 ∈ names → entries[b.2]? = some b.1 → b.1.2 = statement → b = a ∨ Before a b

theorem firstFor_of_metFirst {names : List String} {statement : String} {a : Placed}
    (h : MetFirst Before (·.1.2) (entries.placed names) statement a) :
    entries.FirstFor names statement a := by
  obtain ⟨hmem, hlabel, hfirst⟩ := h
  obtain ⟨hname, hplace⟩ := entries.mem_placed.mp hmem
  exact ⟨⟨hname, hplace, hlabel⟩, fun b hb hplaced => hfirst b (entries.mem_placed.mpr ⟨hb, hplaced⟩)⟩

theorem mem_statements {names : List String} {statement : String} :
    statement ∈ (sortNames names).flatMap entries.statementsOf ↔
      ∃ name ∈ names, (name, statement) ∈ entries := by
  simp [List.mem_flatMap, mem_sortNames, statementsOf]

end Declarations

/-- **The statements of some names.** For any entries of the settings the import map exists. The
statements for any names, in whatever order and however often these are given, are those of the
entries for them, none twice. They depend on the set of the names only, and stand in the order of
the first places where they are declared: by name, and for one name by the order of the entries. -/
theorem importsFor_ofEntries (settings : Settings) (entries : Declarations) :
    ∃ map, { settings with autoImports := entries.autoImports }.importMap = .ok map ∧
      ∀ names : List String, ∃ statements : List String,
        importsFor names map = statements.map .text ∧
        (∀ s, s ∈ statements ↔ ∃ name ∈ names, (name, s) ∈ entries) ∧
        statements.Nodup ∧
        (∀ names' : List String, (∀ name, name ∈ names' ↔ name ∈ names) →
          importsFor names' map = importsFor names map) ∧
        statements.Pairwise fun s t => ∃ a b, entries.FirstFor names s a ∧
          entries.FirstFor names t b ∧ Declarations.Before a b := by
  refine ⟨_, entries.ofEntries_autoImports, fun names => ?_⟩
  refine ⟨_, entries.importsFor_declared names, fun s => ?_, nodup_dedup _, fun names' h => ?_, ?_⟩
  · rw [mem_dedup, entries.mem_statements]
  · rw [importsFor, importsFor, sortNames_congr h]
  · rw [← entries.placed_statements names]
    refine (dedup_map_first (entries.placed_pairwise names)).imp ?_
    rintro s t ⟨a, b, ha, hb, hab⟩
    exact ⟨a, b, entries.firstFor_of_metFirst ha, entries.firstFor_of_metFirst hb, hab⟩

/-- Two names that share a statement, declared in turns. -/
def inTurns : Declarations :=
  [("pd", "a"), ("np", "b"), ("pd", "c"), ("pd", "a"), ("np", "a")]

theorem importsFor_ofEntries_inTurns :
    ∃ map, ImportMap.ofEntries inTurns.autoImports = .ok map ∧
      importsFor ["pd", "np"] map = ["b", "a", "c"].map .text ∧
      importsFor ["np", "pd", "np"] map = ["b", "a", "c"].map .text := by
  obtain ⟨map, hmap, hnames⟩ := importsFor_ofEntries {} inTurns
  obtain ⟨statements, -, -, -, hset, -⟩ := hnames ["pd", "np"]
  have horder : importsFor ["pd", "np"] map = ["b", "a", "c"].map .text := by
    cases hmap
    have hsorted : sortNames ["pd", "np"] = ["np", "pd"] :=
      (sortNames_sorted _).eq_of_mem_iff (by decide) fun name => by simp [mem_sortNames, or_comm]
    have htexts : dedup (["np", "pd"].flatMap inTurns.statementsOf) = ["b", "a", "c"] := by decide
    exact (inTurns.importsFor_declared _).trans (by rw [hsorted, htexts])
  refine ⟨map, hmap, horder, ?_⟩
  rw [hset ["np", "pd", "np"] (by simp [or_comm]), horder]

end TidyImports
