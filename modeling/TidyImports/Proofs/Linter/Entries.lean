import TidyImports.Linter.Config
import TidyImports.Proofs.Data.Except
import TidyImports.Proofs.Data.Table

/-!
# Configurations read from their own entries

The entries of a configuration name its fields that are set, and are read as a configuration again.

* `Config.ofEntries_toEntries` — which one that is: the same, with a list for the selection;
* `Config.select_of_ofEntries` — the selection that a mapping asks for;
* `Config.toEntries_returns_iff` — for which mappings the configuration itself comes back, and for
  which it has a label;
* `Config.toEntries_changed` — a mapping with the selection unset.
-/

namespace TidyImports.Config

/-! ## Setting names -/

theorem Key.ofName?_name (key : Key) : ofName? key.name = some key := by cases key <;> decide

theorem Key.mem_all (key : Key) : key ∈ all := by cases key <;> decide

theorem Key.name_eq_of_ofName? {name : String} {key : Key} (h : ofName? name = some key) :
    name = key.name := by
  have hfound := List.find?_some h
  exact (beq_iff_eq.mp hfound).symm

/-! ## Fields -/

/-- A configuration is its fields and its name, where both hold a list of rules. -/
theorem eq_of_get {c d : Config} (hget : ∀ key, c.get key = d.get key) (hname : c.name = d.name)
    (hc : c.select ≠ none) (hd : d.select ≠ none) : c = d := by
  have hselect : c.select = d.select := by
    have := hget .select
    unfold get at this
    grind
  have hrequired : c.requiredImports = d.requiredImports := by
    have := hget .requiredImports
    unfold get at this
    grind
  obtain ⟨_, _, _, _, _, _, _, _⟩ := c
  obtain ⟨_, _, _, _, _, _, _, _⟩ := d
  have hlines := hget .linesAfterImports
  have hcombine := hget .combineAsImports
  have hsplit := hget .splitOnTrailingComma
  have hlength := hget .lineLength
  have hskip := hget .skipMagicTrailingComma
  simp only [get] at hlines hcombine hsplit hlength hskip
  simp_all

/-- A field that is set can be set to the same in any configuration, and no other changes there. -/
theorem set_get {c : Config} {key : Key} (d : Config) (h : (c.get key).isNull = false) :
    ∃ e, d.set key (c.get key) = .ok e ∧ e.name = d.name ∧ (d.select ≠ none → e.select ≠ none) ∧
      ∀ k, e.get k = if k = key then c.get key else d.get k := by
  cases key with
  | select =>
    rcases hrules : c.select with _ | _ | ⟨rule, rules⟩
    · simp [get, hrules, Value.isNull] at h
    · simp [get, hrules, Value.isNull] at h
    · have hvalue : c.get .select = .list (rule :: rules) := by simp [get, hrules]
      rw [hvalue]
      refine ⟨{ d with select := some (rule :: rules) }, rfl, rfl, nofun, ?_⟩
      intro k
      cases k <;> rfl
  | requiredImports =>
    rcases hitems : c.requiredImports with _ | items
    · simp [get, hitems, Value.isNull] at h
    · have hvalue : c.get .requiredImports = .list items := by simp [get, hitems]
      rw [hvalue]
      refine ⟨{ d with requiredImports := some items }, rfl, rfl, id, ?_⟩
      intro k
      cases k <;> rfl
  | _ =>
    refine ⟨_, rfl, rfl, id, ?_⟩
    intro k
    cases k <;> rfl

/-- The set fields of some keys, read into a configuration that holds other fields. -/
theorem setAll_fields (c : Config) (keys : List Key) (d : Config) :
    ∃ e, setAll d ((keys.map fun k => (k.name, c.get k)).filter fun e => !e.2.isNull) = .ok e ∧
      e.name = d.name ∧ (d.select ≠ none → e.select ≠ none) ∧
      ∀ k, e.get k = if k ∈ keys ∧ (c.get k).isNull = false then c.get k else d.get k := by
  induction keys generalizing d with
  | nil => exact ⟨d, rfl, rfl, id, by simp⟩
  | cons key rest ih =>
    rw [List.map_cons, List.filter_cons]
    cases hnull : (c.get key).isNull with
    | true =>
      obtain ⟨e, he, hname, hselect, hget⟩ := ih d
      refine ⟨e, by simpa using he, hname, hselect, ?_⟩
      grind
    | false =>
      obtain ⟨d', hd', hname', hselect', hget'⟩ := set_get d hnull
      obtain ⟨e, he, hname, hselect, hget⟩ := ih d'
      refine ⟨e, ?_, hname.trans hname', fun hd => hselect (hselect' hd), ?_⟩
      · simp [setAll, Key.ofName?_name, hd', Except.bind_eq_ok_iff, he]
      · grind

/-! ## Entries of a configuration -/

theorem mem_toEntries {c : Config} {key : Key} (h : (c.get key).isNull = false) :
    (key.name, c.get key) ∈ c.toEntries := by
  rw [toEntries, List.mem_filter]
  exact ⟨List.mem_map_of_mem key.mem_all, by simp [h]⟩

theorem exists_of_mem_toEntries {c : Config} {e : String × Value} (h : e ∈ c.toEntries) :
    ∃ key : Key, e = (key.name, c.get key) := by
  obtain ⟨key, -, rfl⟩ := List.mem_map.mp (List.mem_filter.mp h).1
  exact ⟨key, rfl⟩

/-- The configuration with a list of rules, be it an empty one, where its selection is unset. -/
def selecting (c : Config) : Config := { c with select := some (c.select.getD []) }

theorem get_selecting (c : Config) (key : Key) : c.selecting.get key = c.get key := by
  cases key with
  | select => rcases h : c.select with _ | _ | _ <;> simp [selecting, get, h]
  | _ => rfl

theorem toEntries_selecting (c : Config) : c.selecting.toEntries = c.toEntries := by
  simp only [toEntries, get_selecting]

theorem selecting_eq_self_iff {c : Config} : c.selecting = c ↔ c.select ≠ none := by
  constructor
  · intro h hnone
    have := congrArg select h
    simp [selecting, hnone] at this
  · intro h
    obtain ⟨rules, hrules⟩ := Option.ne_none_iff_exists'.mp h
    obtain ⟨_, _, _, _, _, _, _, _⟩ := c
    cases hrules
    rfl

theorem unknown_toEntries (c : Config) : unknown c.toEntries = [] := by
  have hkeys : c.toEntries.keys.filter (fun k => (Key.ofName? k).isNone) = [] := by
    refine List.filter_eq_nil_iff.mpr ?_
    intro name hname
    obtain ⟨e, he, rfl⟩ := List.mem_map.mp hname
    obtain ⟨key, rfl⟩ := exists_of_mem_toEntries he
    simp [Key.ofName?_name]
  simp [unknown, hkeys]

theorem ofEntries_toEntries (c : Config) : ofEntries c.toEntries c.name = .ok c.selecting := by
  obtain ⟨e, he, hname, hselect, hget⟩ := setAll_fields c Key.all { name := c.name }
  have heq : e = c.selecting := by
    refine eq_of_get ?_ hname (hselect nofun) nofun
    intro key
    rw [hget, get_selecting]
    cases hnull : (c.get key).isNull with
    | false => simp [Key.mem_all]
    | true =>
      have hvalue : c.get key = .null := by
        cases hv : c.get key <;> simp [hv, Value.isNull] at hnull ⊢
      rw [hvalue]
      cases key <;> simp [get]
  rw [ofEntries, unknown_toEntries]
  exact heq ▸ he

/-! ## Mappings -/

theorem items?_eq_ok_iff {v : Value} {rules : Option (List Value)} :
    items? v = .ok rules ↔ rules = v.items? ∧ (v = .null ∨ rules ≠ none) := by
  cases v <;> simp [items?, Value.items?] <;> grind

theorem set_eq_ok {c d : Config} {key : Key} {v : Value} (h : c.set key v = .ok d) :
    d.name = c.name ∧ (key = .select → items? v = .ok d.select) ∧
      (key ≠ .select → d.select = c.select) := by
  cases key with
  | select =>
    obtain ⟨rules, hrules, heq⟩ := Except.bind_eq_ok_iff.mp h
    cases heq
    exact ⟨rfl, fun _ => hrules, fun hne => absurd rfl hne⟩
  | requiredImports =>
    obtain ⟨items, -, heq⟩ := Except.bind_eq_ok_iff.mp h
    cases heq
    exact ⟨rfl, nofun, fun _ => rfl⟩
  | _ =>
    cases h
    exact ⟨rfl, nofun, fun _ => rfl⟩

theorem select_of_setAll {c d : Config} {entries : Table} (hdistinct : entries.keys.Nodup)
    (h : setAll c entries = .ok d) :
    d.name = c.name ∧ (entries.get? Key.select.name = none → d.select = c.select) ∧
      ∀ v, entries.get? Key.select.name = some v → items? v = .ok d.select := by
  induction entries generalizing c with
  | nil =>
    cases h
    exact ⟨rfl, fun _ => rfl, nofun⟩
  | cons e rest ih =>
    obtain ⟨n, v⟩ := e
    obtain ⟨hnotMem, hrest⟩ := List.nodup_cons.mp hdistinct
    rw [setAll] at h
    rw [Table.get?_cons]
    split at h
    · rename_i hkey
      have hne : Key.select.name ≠ n := by
        rintro rfl
        rw [Key.ofName?_name] at hkey
        cases hkey
      rw [if_neg hne]
      exact ih hrest h
    · rename_i key hkey
      obtain ⟨c', hc', hd⟩ := Except.bind_eq_ok_iff.mp h
      obtain ⟨hname, hselect, hother⟩ := set_eq_ok hc'
      obtain ⟨hname', hnone', hsome'⟩ := ih hrest hd
      refine ⟨hname'.trans hname, ?_⟩
      cases Key.name_eq_of_ofName? hkey
      by_cases hselected : key = .select
      · -- the name stands in no other entry
        have hnone : Table.get? rest Key.select.name = none := by
          cases hfound : Table.get? rest Key.select.name with
          | none => rfl
          | some w => exact absurd (Table.mem_keys_of_get? hfound) (hselected ▸ hnotMem)
        rw [hselected, if_pos rfl, hnone' hnone]
        refine ⟨nofun, ?_⟩
        rintro _ ⟨⟩
        exact hselect hselected
      · have hne : Key.select.name ≠ key.name := by
          intro heq
          have := congrArg Key.ofName? heq
          rw [Key.ofName?_name, Key.ofName?_name] at this
          exact hselected (Option.some.inj this).symm
        rw [if_neg hne]
        exact ⟨fun hnone => (hnone' hnone).trans (hother hselected), hsome'⟩

section

variable {entries : Table} {name : String} {c : Config}

theorem select_of_ofEntries (hdistinct : entries.keys.Nodup) (h : ofEntries entries name = .ok c) :
    c.name = name ∧ (entries.get? Key.select.name = none → c.select = some []) ∧
      ∀ v, entries.get? Key.select.name = some v → items? v = .ok c.select := by
  unfold ofEntries at h
  split at h
  · exact select_of_setAll hdistinct h
  · cases h

theorem select_eq_none_iff (hdistinct : entries.keys.Nodup) (h : ofEntries entries name = .ok c) :
    c.select = none ↔ entries.get? Key.select.name = some .null := by
  obtain ⟨-, hnone, hsome⟩ := select_of_ofEntries hdistinct h
  cases hget : entries.get? Key.select.name with
  | none => simp [hnone hget]
  | some v =>
    obtain ⟨hitems, hlisted⟩ := items?_eq_ok_iff.mp (hsome v hget)
    constructor
    · intro hselect
      rw [hlisted.resolve_right (not_not.mpr hselect)]
    · rintro ⟨⟩
      exact hitems

theorem select_texts_iff (hdistinct : entries.keys.Nodup) (h : ofEntries entries name = .ok c) :
    (∃ rules : List String, c.select = some (rules.map .text)) ↔
      ∀ v, entries.get? Key.select.name = some v →
        ∃ rules : List String, v.items? = some (rules.map .text) := by
  obtain ⟨-, hnone, hsome⟩ := select_of_ofEntries hdistinct h
  cases hget : entries.get? Key.select.name with
  | none => exact iff_of_true ⟨[], hnone hget⟩ nofun
  | some v =>
    rw [(items?_eq_ok_iff.mp (hsome v hget)).1]
    constructor
    · rintro hrules _ ⟨⟩
      exact hrules
    · intro hrules
      exact hrules v rfl

end

/-! ## Labels -/

theorem texts?_eq_some_iff {items : List Value} {rules : List String} :
    texts? items = some rules ↔ items = rules.map .text := by
  induction items generalizing rules with
  | nil => cases rules <;> simp [texts?]
  | cons v items ih => cases v <;> cases rules <;> simp [texts?, ih, and_comm]

theorem label_of_name {c : Config} (h : c.name ≠ "") : c.label = .ok c.name := by
  simp [label, h]

theorem exists_label_iff {c : Config} :
    (∃ text, c.label = .ok text) ↔
      c.name ≠ "" ∨ ∃ rules : List String, c.select = some (rules.map .text) := by
  by_cases hname : c.name = ""
  · have hrules : (∃ rules : List String, c.select = some (rules.map .text)) ↔
        ∃ rules, c.select.bind texts? = some rules := by
      simp [Option.bind_eq_some_iff, texts?_eq_some_iff]
    rw [label, hrules]
    cases c.select.bind texts? with
    | none => simp [hname]
    | some rules => simp [hname]
  · exact iff_of_true ⟨_, label_of_name hname⟩ (Or.inl hname)

/-! ## There and back -/

/-- **The entries of a configuration, read under its name,** give a configuration with the same
overrides. It is the same one exactly if the mapping that the first was read from does not unset the
selection, and has the same label exactly if there is a name or the selection holds texts only. -/
theorem toEntries_returns_iff {entries : Table} {name : String} {c : Config}
    (hdistinct : entries.keys.Nodup) (h : ofEntries entries name = .ok c) :
    ∃ d, ofEntries c.toEntries name = .ok d ∧ d.overrides = c.overrides ∧
      (d = c ↔ entries.get? Key.select.name ≠ some .null) ∧
      ((∃ text, c.label = .ok text ∧ d.label = .ok text) ↔
        name ≠ "" ∨ ∀ v, entries.get? Key.select.name = some v →
          ∃ rules : List String, v.items? = some (rules.map .text)) := by
  have hname := (select_of_ofEntries hdistinct h).1
  refine ⟨c.selecting, hname ▸ ofEntries_toEntries c, ?_, ?_, ?_⟩
  · rw [overrides, toEntries_selecting, overrides]
  · rw [selecting_eq_self_iff, ne_eq, select_eq_none_iff hdistinct h]
  · rw [← select_texts_iff hdistinct h, ← hname, ← exists_label_iff]
    constructor
    · rintro ⟨text, htext, -⟩
      exact ⟨text, htext⟩
    · rintro ⟨text, htext⟩
      refine ⟨text, htext, ?_⟩
      rcases exists_label_iff.mp ⟨text, htext⟩ with hnamed | ⟨rules, hrules⟩
      · rw [label_of_name hnamed] at htext
        exact (label_of_name (c := c.selecting) hnamed).trans htext
      · rwa [selecting_eq_self_iff.mpr (by simp [hrules])]

/-- Sorted imports with nothing required, no trailing commas and the lines behind imports unset. -/
def sortedImports : Table :=
  [("line-length", .int 100), ("lint.select", .list [.text "I001"]),
    ("lint.isort.required-imports", .list []), ("lint.isort.split-on-trailing-comma", .bool false),
    ("lint.isort.lines-after-imports", .null)]

theorem toEntries_returns_iff_sortedImports :
    (sortedImports.keys.Nodup ∧ ∃ c, ofEntries sortedImports "" = .ok c) ∧
    ∃ c, ofEntries sortedImports "" = .ok c ∧
    ∃ d, ofEntries c.toEntries "" = .ok d ∧ d.overrides = c.overrides ∧
      (d = c ↔ sortedImports.get? Key.select.name ≠ some .null) ∧
      ((∃ text, c.label = .ok text ∧ d.label = .ok text) ↔
        "" ≠ "" ∨ ∀ v, sortedImports.get? Key.select.name = some v →
          ∃ rules : List String, v.items? = some (rules.map .text)) := by
  have hdistinct : sortedImports.keys.Nodup := by decide
  have hread : ofEntries sortedImports "" =
      .ok { select := some [.text "I001"], requiredImports := some [],
            splitOnTrailingComma := .bool false, lineLength := .int 100 } := by
    with_unfolding_all rfl
  exact ⟨⟨hdistinct, _, hread⟩, _, hread, toEntries_returns_iff hdistinct hread⟩

/-- A mapping that unsets the selection gives a configuration that does not come back and has no
label, while the one that is read from its entries is labelled. -/
theorem toEntries_changed :
    ∃ c d, ofEntries [("lint.select", .null)] "" = .ok c ∧ ofEntries c.toEntries "" = .ok d ∧
      c.same d = false ∧ c.label = .error (.misuse .wrongKind) ∧ d.label = .ok "default" := by
  have hread : ofEntries [("lint.select", .null)] "" = .ok { select := none } := by
    with_unfolding_all rfl
  exact ⟨_, _, hread, ofEntries_toEntries { select := none }, rfl, rfl, rfl⟩

end TidyImports.Config
