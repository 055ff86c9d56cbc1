import TidyImports.Proofs.Settings.Files
import TidyImports.Proofs.Settings.Values

/-!
# Which source counts

Options of the command line count before environment variables, these before `.importantrc`, and
that before the project file, for each field by itself.

* `Table.Sets`, `Environment.Sets` — a source sets a field to a value;
* `Chosen` — the value of the first source that sets one;
* `loadSettings_eq_ok_iff` — the settings that are loaded, without the readers and the merge;
* `loadSettings_precedence` — precedence field by field, and its independence of other fields.
-/

namespace TidyImports

/-! ## Keys -/

namespace Field

theorem name_injective : Function.Injective name := by
  intro f g h
  cases f <;> cases g <;> first | rfl | simp [name] at h

theorem mem_all (f : Field) : f ∈ all := by cases f <;> decide

/-- The key is the name of the field, hyphens standing for low lines. -/
def Spelt (f : Field) (key : String) : Prop :=
  key.toList.map (fun c => if c = '-' then '_' else c) = f.name.toList

instance (f : Field) (key : String) : Decidable (f.Spelt key) :=
  inferInstanceAs (Decidable (_ = _))

theorem ofKey?_eq_find? (key : String) : ofKey? key = all.find? fun f => f.Spelt key := by
  unfold ofKey?
  dsimp only
  congr 1
  funext f
  rw [Bool.eq_iff_iff, beq_iff_eq, decide_eq_true_eq, Spelt, ← String.toList_inj,
    String.toList_ofList, eq_comm]

theorem ofKey?_eq_some_iff {key : String} {f : Field} : ofKey? key = some f ↔ f.Spelt key := by
  rw [ofKey?_eq_find?]
  constructor
  · intro h
    simpa using List.find?_some h
  · intro h
    cases hfound : all.find? fun g => g.Spelt key with
    | none => exact absurd h (by simpa using List.find?_eq_none.mp hfound f (mem_all f))
    | some g =>
      have hg : g.Spelt key := by simpa using List.find?_some hfound
      rw [name_injective (String.toList_inj.mp (hg.symm.trans h))]

end Field

/-! ## Sources as tables -/

/-- The last entry that is spelt for the field gives it the value; `null` is none. -/
def Table.Sets (t : Table) (f : Field) (v : Value) : Prop :=
  v ≠ .null ∧ ∃ before key after, t = before ++ (key, v) :: after ∧ f.Spelt key ∧
    ∀ e ∈ after, ¬ f.Spelt e.1

namespace Source

theorem get?_eq_some_iff {s : Source} {f : Field} {v : Value} :
    s.get? f = some v ↔ v ≠ .null ∧ s.reverse.lookup f = some v := by
  unfold get?
  split
  · rename_i h
    rw [h]
    refine iff_of_false nofun ?_
    rintro ⟨hv, hsome⟩
    cases hsome
    exact hv rfl
  · rename_i h
    simp [h]
  · rename_i w hw h
    rw [h]
    constructor
    · intro heq
      cases heq
      exact ⟨hw, rfl⟩
    · rintro ⟨-, heq⟩
      exact heq

theorem lookup_filterMap_ofKey (entries : Table) (f : Field) :
    (entries.filterMap fun e => (Field.ofKey? e.1).map fun g => (g, e.2)).lookup f =
      (entries.find? fun e => f.Spelt e.1).map Prod.snd := by
  induction entries with
  | nil => rfl
  | cons e rest ih =>
    by_cases hspelt : f.Spelt e.1
    · simp [Field.ofKey?_eq_some_iff.mpr hspelt, hspelt]
    · rw [List.find?_cons_of_neg (by simpa using hspelt), ← ih]
      cases hkey : Field.ofKey? e.1 with
      | none => simp [hkey]
      | some g =>
        have hne : (f == g) = false := by
          refine beq_eq_false_iff_ne.mpr ?_
          rintro rfl
          exact hspelt (Field.ofKey?_eq_some_iff.mp hkey)
        simp [hkey, List.lookup_cons, hne]

theorem get?_ofTable_eq_some_iff {t : Table} {f : Field} {v : Value} :
    (ofTable t).get? f = some v ↔ t.Sets f v := by
  have hlookup : (ofTable t).reverse.lookup f =
      (t.reverse.find? fun e => f.Spelt e.1).map Prod.snd := by
    rw [← lookup_filterMap_ofKey, List.filterMap_reverse]
    rfl
  rw [get?_eq_some_iff, hlookup, Table.Sets]
  refine and_congr_right fun _ => ?_
  simp only [Option.map_eq_some_iff, List.find?_eq_some_iff_append]
  constructor
  · rintro ⟨⟨key, w⟩, ⟨hspelt, before, after, hsplit, hbefore⟩, rfl⟩
    refine ⟨after.reverse, key, before.reverse, ?_, by simpa using hspelt, ?_⟩
    · rw [← List.reverse_reverse t, hsplit]
      simp
    · simpa using hbefore
  · rintro ⟨before, key, after, rfl, hspelt, hafter⟩
    refine ⟨(key, v), ⟨by simpa using hspelt, after.reverse, before.reverse, by simp, ?_⟩, rfl⟩
    simpa using hafter

end Source

/-! ## Environment variables -/

namespace Environment

/-- The variable of a field holds a text, and the reader of the field reads the value from it. -/
def Reads (env : Environment) (e : Field × (String → Text → Except Failure Value)) (v : Value) :
    Prop :=
  ∃ text, env.get? e.1.variableName = some text ∧ e.2 e.1.variableName text = .ok v

/-- The variable of the field gives it the value. -/
def Sets (env : Environment) (f : Field) (v : Value) : Prop :=
  ∃ e ∈ variableReaders, e.1 = f ∧ env.Reads e v

/-- Every variable of a field that is set can be read. -/
def Readable (env : Environment) : Prop :=
  ∀ e ∈ variableReaders, ∀ text, env.get? e.1.variableName = some text → ∃ v, env.Reads e v

theorem Reads.unique {env : Environment} {e : Field × (String → Text → Except Failure Value)}
    {v w : Value} (h : env.Reads e v) (h' : env.Reads e w) : v = w := by
  obtain ⟨text, htext, hv⟩ := h
  obtain ⟨text', htext', hw⟩ := h'
  cases htext.symm.trans htext'
  exact Except.ok.inj (hv.symm.trans hw)

end Environment

section

variable {env : Environment} {e : Field × (String → Text → Except Failure Value)}
  {readers : List (Field × (String → Text → Except Failure Value))} {source : Source}

theorem readVariables_cons_eq_ok_iff :
    readVariables env (e :: readers) = .ok source ↔
      (env.get? e.1.variableName = none ∧ readVariables env readers = .ok source) ∨
        ∃ v more, env.Reads e v ∧ readVariables env readers = .ok more ∧
          source = (e.1, v) :: more := by
  obtain ⟨f, read⟩ := e
  cases hvariable : env.get? f.variableName with
  | none => simp [readVariables, Environment.Reads, hvariable]
  | some text =>
    simp only [readVariables, Environment.Reads, hvariable, Except.bind_eq_ok_iff, reduceCtorEq,
      false_and, false_or, Option.some.injEq, exists_eq_left']
    constructor
    · rintro ⟨v, hv, more, hmore, hsource⟩
      exact ⟨v, more, hv, hmore, (Except.ok.inj hsource).symm⟩
    · rintro ⟨v, more, hv, hmore, rfl⟩
      exact ⟨v, hv, more, hmore, rfl⟩

theorem mem_readVariables_iff (h : readVariables env readers = .ok source) {f : Field} {v : Value} :
    (f, v) ∈ source ↔ ∃ e ∈ readers, e.1 = f ∧ env.Reads e v := by
  induction readers generalizing source with
  | nil =>
    cases h
    simp
  | cons e rest ih =>
    rw [List.exists_mem_cons_iff]
    rcases readVariables_cons_eq_ok_iff.mp h with ⟨hunset, h⟩ | ⟨w, more, hw, hmore, rfl⟩
    · have hnot : ¬ (e.1 = f ∧ env.Reads e v) := by
        rintro ⟨-, text, htext, -⟩
        cases hunset.symm.trans htext
      rw [ih h, or_iff_right hnot]
    · rw [List.mem_cons, ih hmore]
      refine or_congr_left ?_
      constructor
      · intro heq
        cases heq
        exact ⟨rfl, hw⟩
      · rintro ⟨rfl, hv⟩
        rw [hv.unique hw]

theorem sublist_of_readVariables (h : readVariables env readers = .ok source) :
    (source.map Prod.fst).Sublist (readers.map Prod.fst) := by
  induction readers generalizing source with
  | nil =>
    cases h
    exact List.Sublist.refl _
  | cons e rest ih =>
    rcases readVariables_cons_eq_ok_iff.mp h with ⟨-, h⟩ | ⟨v, more, -, hmore, rfl⟩
    · exact (ih h).cons _
    · exact (ih hmore).cons_cons _

theorem readVariables_ok_iff :
    (∃ source, readVariables env readers = .ok source) ↔
      ∀ e ∈ readers, ∀ text, env.get? e.1.variableName = some text → ∃ v, env.Reads e v := by
  induction readers with
  | nil => simp [readVariables]
  | cons e rest ih =>
    rw [List.forall_mem_cons, ← ih]
    constructor
    · rintro ⟨source, h⟩
      rcases readVariables_cons_eq_ok_iff.mp h with ⟨hunset, h⟩ | ⟨v, more, hv, hmore, -⟩
      · exact ⟨fun text htext => (nomatch hunset.symm.trans htext), source, h⟩
      · exact ⟨fun _ _ => ⟨v, hv⟩, more, hmore⟩
    · rintro ⟨hread, more, hmore⟩
      cases hvariable : env.get? e.1.variableName with
      | none => exact ⟨more, readVariables_cons_eq_ok_iff.mpr (Or.inl ⟨hvariable, hmore⟩)⟩
      | some text =>
        obtain ⟨v, hv⟩ := hread text hvariable
        exact ⟨_, readVariables_cons_eq_ok_iff.mpr (Or.inr ⟨v, more, hv, hmore, rfl⟩)⟩

end

theorem parseBool_eq_ok {name : String} {text : Text} {v : Value}
    (h : parseBool name text = .ok v) : ∃ b, v = .bool b := by
  unfold parseBool at h
  dsimp only at h
  split at h
  · exact ⟨true, (Except.ok.inj h).symm⟩
  · split at h
    · exact ⟨false, (Except.ok.inj h).symm⟩
    · cases h

theorem parseInt_eq_ok {name : String} {text : Text} {v : Value}
    (h : parseInt name text = .ok v) : ∃ n, v = .int n := by
  unfold parseInt at h
  split at h
  · exact ⟨_, (Except.ok.inj h).symm⟩
  · cases h

theorem parseNumber_eq_ok {name : String} {text : Text} {v : Value}
    (h : parseNumber name text = .ok v) : ∃ x, v = .float x := by
  unfold parseNumber at h
  split at h
  · exact ⟨_, (Except.ok.inj h).symm⟩
  · cases h

/-- The readers give values of the kind of their field, and no `null`. -/
theorem Environment.Sets.ne_null {env : Environment} {f : Field} {v : Value} (h : env.Sets f v) :
    v ≠ .null := by
  obtain ⟨e, he, -, text, -, hv⟩ := h
  simp only [variableReaders, List.mem_cons, List.not_mem_nil, or_false] at he
  rcases he with rfl | rfl | rfl | rfl | rfl | rfl | rfl | rfl
  iterate 3
    obtain ⟨b, rfl⟩ := parseBool_eq_ok hv
    nofun
  iterate 3
    obtain ⟨n, rfl⟩ := parseInt_eq_ok hv
    nofun
  · obtain ⟨x, rfl⟩ := parseNumber_eq_ok hv
    nofun
  · cases hv
    nofun

theorem lookup_eq_some_iff_mem {s : Source} (h : (s.map Prod.fst).Nodup) {f : Field} {v : Value} :
    s.lookup f = some v ↔ (f, v) ∈ s := by
  constructor
  · intro hlookup
    obtain ⟨before, after, rfl, -⟩ := List.lookup_eq_some_iff.mp hlookup
    simp
  · intro hmem
    obtain ⟨before, after, rfl⟩ := List.append_of_mem hmem
    refine List.lookup_eq_some_iff.mpr ⟨before, after, rfl, fun e he => ?_⟩
    rw [List.map_append, List.nodup_append] at h
    have hne := h.2.2 e.1 (List.mem_map_of_mem he) f (by simp)
    simpa using hne.symm

theorem get?_environmentSource_iff {env : Environment} {environment : Source}
    (h : environmentSource env = .ok environment) {f : Field} {v : Value} :
    environment.get? f = some v ↔ env.Sets f v := by
  have hnodup : (environment.map Prod.fst).Nodup :=
    (sublist_of_readVariables h).nodup (by decide)
  have hreverse : (environment.reverse.map Prod.fst).Nodup := by
    rwa [List.map_reverse, List.nodup_reverse]
  rw [Source.get?_eq_some_iff, lookup_eq_some_iff_mem hreverse, List.mem_reverse,
    mem_readVariables_iff h]
  exact and_iff_right_of_imp Environment.Sets.ne_null

/-! ## The first source -/

/-- The value of the first source that sets one, and none where no source does. A source is given as
the values that it sets. -/
inductive Chosen : List (Value → Prop) → Option Value → Prop
  | none : Chosen [] none
  | first {sets : Value → Prop} {rest : List (Value → Prop)} {v : Value} (h : sets v) :
    Chosen (sets :: rest) (some v)
  | later {sets : Value → Prop} {rest : List (Value → Prop)} {given : Option Value}
    (h : ∀ v, ¬ sets v) (hrest : Chosen rest given) : Chosen (sets :: rest) given

theorem chosen_iff_pick {sources : List Source} {f : Field} {given : Option Value} :
    Chosen (sources.map fun s v => s.get? f = some v) given ↔ Source.pick sources f = given := by
  induction sources with
  | nil =>
    constructor
    · rintro ⟨⟩
      rfl
    · rintro rfl
      exact .none
  | cons s rest ih =>
    rw [List.map_cons, Source.pick, List.findSome?_cons]
    cases s.get? f with
    | none =>
      constructor
      · rintro (_ | ⟨⟨⟩⟩ | ⟨-, hrest⟩)
        exact ih.mp hrest
      · intro h
        exact .later nofun (ih.mpr h)
    | some v =>
      constructor
      · rintro (_ | ⟨⟨⟩⟩ | ⟨hnone, -⟩)
        · rfl
        · exact absurd rfl (hnone v)
      · rintro rfl
        exact .first rfl

/-! ## Loading -/

/-- What the four sources give for each field: the overrides, the variables, the table of the
nearest `.importantrc` and that of the nearest project file. -/
def Given (disk : Disk) (env : Environment) (overrides : Table) (start : PathName)
    (given : Field → Option Value) : Prop :=
  ∃ rc own, disk.Configured rcName start rc ∧ disk.OwnSection start own ∧ env.Readable ∧
    ∀ f, Chosen [overrides.Sets f, env.Sets f, rc.Sets f, own.Sets f] (given f)

/-- The environment whose variables can all be read, as a source. -/
theorem Environment.readable_iff {env : Environment} :
    env.Readable ↔ ∃ environment, environmentSource env = .ok environment :=
  readVariables_ok_iff.symm

theorem chosen_sources_iff {overrides rc own : Table} {env : Environment} {environment : Source}
    (h : environmentSource env = .ok environment) {f : Field} {given : Option Value} :
    Chosen [overrides.Sets f, env.Sets f, rc.Sets f, own.Sets f] given ↔
      Source.pick [Source.ofTable overrides, environment, Source.ofTable rc, Source.ofTable own] f =
        given := by
  simp only [← chosen_iff_pick, List.map_cons, List.map_nil, Source.get?_ofTable_eq_some_iff,
    get?_environmentSource_iff h]

/-- What the sources give, as the pick among them. -/
theorem given_iff {disk : Disk} {env : Environment} {overrides : Table} {start : PathName}
    {given : Field → Option Value} :
    Given disk env overrides start given ↔
      ∃ rc own environment, disk.Configured rcName start rc ∧ disk.OwnSection start own ∧
        environmentSource env = .ok environment ∧
        Source.pick
          [Source.ofTable overrides, environment, Source.ofTable rc, Source.ofTable own] =
            given := by
  unfold Given
  simp only [Environment.readable_iff]
  constructor
  · rintro ⟨rc, own, hrc, hown, ⟨environment, henvironment⟩, hgiven⟩
    exact ⟨rc, own, environment, hrc, hown, henvironment,
      funext fun f => (chosen_sources_iff henvironment).mp (hgiven f)⟩
  · rintro ⟨rc, own, environment, hrc, hown, henvironment, rfl⟩
    exact ⟨rc, own, hrc, hown, ⟨environment, henvironment⟩, fun f =>
      (chosen_sources_iff henvironment).mpr rfl⟩

theorem loadSettings_eq (disk : Disk) (env : Environment) (overrides : Table) (start : PathName) :
    loadSettings disk env overrides start = (do
      let project ← projectSource disk start
      let rc ← rcSource disk start
      let environment ← environmentSource env
      Settings.ofSources [Source.ofTable overrides, environment, rc, project]) :=
  rfl

/-- Settings are loaded exactly when every field accepts what the sources give for it. -/
theorem loadSettings_eq_ok_iff {disk : Disk} {env : Environment} {overrides : Table}
    {start : PathName} {s : Settings} :
    loadSettings disk env overrides start = .ok s ↔
      ∃ given, Given disk env overrides start given ∧
        ∀ f : Field, f.Keeps (given f) (s.get f) := by
  simp only [loadSettings_eq, Except.bind_eq_ok_iff, projectSource_eq_ok_iff, rcSource_eq_ok_iff,
    Settings.ofSources_eq_ok_iff]
  constructor
  · rintro ⟨_, ⟨own, hown, rfl⟩, _, ⟨rc, hrc, rfl⟩, environment, henvironment, hkeeps⟩
    exact ⟨_, given_iff.mpr ⟨rc, own, environment, hrc, hown, henvironment, rfl⟩, hkeeps⟩
  · rintro ⟨given, hgiven, hkeeps⟩
    obtain ⟨rc, own, environment, hrc, hown, henvironment, rfl⟩ := given_iff.mp hgiven
    exact ⟨_, ⟨own, hown, rfl⟩, _, ⟨rc, hrc, rfl⟩, environment, henvironment, hkeeps⟩

/-- Where the four sources set a field alike, the same is given for it. -/
theorem Chosen.congr {f : Field} {overrides overrides' rc rc' own own' : Table}
    {env env' : Environment} {given : Option Value}
    (h : Chosen [overrides.Sets f, env.Sets f, rc.Sets f, own.Sets f] given)
    (halike : ∀ v, (overrides'.Sets f v ↔ overrides.Sets f v) ∧ (env'.Sets f v ↔ env.Sets f v) ∧
      (rc'.Sets f v ↔ rc.Sets f v) ∧ (own'.Sets f v ↔ own.Sets f v)) :
    Chosen [overrides'.Sets f, env'.Sets f, rc'.Sets f, own'.Sets f] given := by
  have hoverrides : overrides'.Sets f = overrides.Sets f :=
    funext fun v => propext (halike v).1
  have henv : env'.Sets f = env.Sets f := funext fun v => propext (halike v).2.1
  have hrc : rc'.Sets f = rc.Sets f := funext fun v => propext (halike v).2.2.1
  have hown : own'.Sets f = own.Sets f := funext fun v => propext (halike v).2.2.2
  rwa [hoverrides, henv, hrc, hown]

/-- Each source is one table, and of a table one value. -/
theorem Disk.Configured.unique {disk : Disk} {filename : String} {start : PathName} {t u : Table}
    (h : disk.Configured filename start t) (h' : disk.Configured filename start u) : t = u :=
  Except.ok.inj ((Disk.config_eq_ok_iff.mpr h).symm.trans (Disk.config_eq_ok_iff.mpr h'))

theorem Table.Section.unique {t u u' : Table} {key : String} (h : t.Section key u)
    (h' : t.Section key u') : u = u' :=
  Except.ok.inj ((section?_eq_ok_iff.mpr h).symm.trans (section?_eq_ok_iff.mpr h'))

theorem Disk.OwnSection.unique {disk : Disk} {start : PathName} {own own' : Table}
    (h : disk.OwnSection start own) (h' : disk.OwnSection start own') : own = own' := by
  obtain ⟨project, tool, hproject, htool, hown⟩ := h
  obtain ⟨project', tool', hproject', htool', hown'⟩ := h'
  cases hproject.unique hproject'
  cases htool.unique htool'
  exact hown.unique hown'

theorem Given.of_configured {disk : Disk} {env : Environment} {overrides rc own : Table}
    {start : PathName} {given : Field → Option Value} (h : Given disk env overrides start given)
    (hrc : disk.Configured rcName start rc) (hown : disk.OwnSection start own) (f : Field) :
    Chosen [overrides.Sets f, env.Sets f, rc.Sets f, own.Sets f] (given f) := by
  obtain ⟨rc', own', hrc', hown', -, hgiven⟩ := h
  cases hrc.unique hrc'
  cases hown.unique hown'
  exact hgiven f

/-- A run gives every field one value. -/
theorem Chosen.unique {f : Field} {overrides rc own : Table} {env : Environment}
    {given given' : Option Value} (hreadable : env.Readable)
    (h : Chosen [overrides.Sets f, env.Sets f, rc.Sets f, own.Sets f] given)
    (h' : Chosen [overrides.Sets f, env.Sets f, rc.Sets f, own.Sets f] given') :
    given = given' := by
  obtain ⟨environment, henvironment⟩ := Environment.readable_iff.mp hreadable
  exact ((chosen_sources_iff henvironment).mp h).symm.trans
    ((chosen_sources_iff henvironment).mp h')

/-- Loaded settings hold for each field what the first of overrides, variables, `.importantrc` and
project file gives that sets the field, coerced, and the default where none does. A field depends on
what the four set for it and on nothing else: other sources that set it alike give it the same
value, whatever they set for other fields. Of two keys for one field in one table the later
counts. -/
theorem loadSettings_precedence {disk : Disk} {env : Environment} {overrides : Table}
    {start : PathName} {s : Settings} (h : loadSettings disk env overrides start = .ok s) :
    ∃ rc own, disk.Configured rcName start rc ∧ disk.OwnSection start own ∧
      (∀ f : Field, ∃ given,
        Chosen [overrides.Sets f, env.Sets f, rc.Sets f, own.Sets f] given ∧
          s.get f = (given.map f.coerce).getD (Settings.get {} f)) ∧
      ∀ disk' env' overrides' start' s' rc' own',
        loadSettings disk' env' overrides' start' = .ok s' →
        disk'.Configured rcName start' rc' → disk'.OwnSection start' own' →
        ∀ f : Field,
          (∀ v, (overrides'.Sets f v ↔ overrides.Sets f v) ∧ (env'.Sets f v ↔ env.Sets f v) ∧
            (rc'.Sets f v ↔ rc.Sets f v) ∧ (own'.Sets f v ↔ own.Sets f v)) →
          s'.get f = s.get f := by
  obtain ⟨given, hgivens, hkeeps⟩ := loadSettings_eq_ok_iff.mp h
  obtain ⟨rc, own, hrc, hown, -, hgiven⟩ := hgivens
  refine ⟨rc, own, hrc, hown, fun f => ⟨given f, hgiven f, (hkeeps f).2⟩, ?_⟩
  intro disk' env' overrides' start' s' rc' own' h' hrc' hown' f halike
  obtain ⟨given', hgivens', hkeeps'⟩ := loadSettings_eq_ok_iff.mp h'
  have hreadable' : env'.Readable := by
    obtain ⟨_, _, -, -, hreadable, -⟩ := hgivens'
    exact hreadable
  have hsame : given' f = given f :=
    Chosen.unique hreadable' (hgivens'.of_configured hrc' hown' f) ((hgiven f).congr halike)
  rw [(hkeeps f).2, (hkeeps' f).2, hsame]

/-- A project file in the root, and an `.importantrc` in a folder below it. -/
def layeredDisk : Disk where
  entries :=
    [(["pyproject.toml"],
      .file (Utf8.encode "[tool.important]\nline_length = 120\ndepth-limit = 3\n".toList)),
    (["p"], .folder),
    (["p", ".importantrc"],
      .file (Utf8.encode "line-length = 100\nlines_after_imports = 1\n".toList))]
  current := ["p"]

def layeredEnvironment : Environment := [("IMPORTANT_LINES_AFTER_IMPORTS", "3".toList)]

theorem loadSettings_precedence_layered :
    ∃ s rc own, loadSettings layeredDisk layeredEnvironment [("line-length", .int 90)]
        (.ofString ".") = .ok s ∧
      s.lineLength = 90 ∧ s.linesAfter = 3 ∧ s.depthLimit = 3 ∧
      layeredDisk.Configured rcName (.ofString ".") rc ∧
      layeredDisk.OwnSection (.ofString ".") own ∧
      ∀ f : Field, ∃ given,
        Chosen [Table.Sets [("line-length", .int 90)] f, layeredEnvironment.Sets f, rc.Sets f,
            own.Sets f] given ∧
          s.get f = (given.map f.coerce).getD (Settings.get {} f) := by
  have hvalues : ((loadSettings layeredDisk layeredEnvironment [("line-length", .int 90)]
      (.ofString ".")).toOption.map fun s => (s.lineLength, s.linesAfter, s.depthLimit)) =
        some (90, 3, 3) := by
    decide +kernel
  obtain ⟨s, hload, hs⟩ := Except.toOption_map_eq_some_iff.mp hvalues
  obtain ⟨hlineLength, hlinesAfter, hdepthLimit⟩ :
      s.lineLength = 90 ∧ s.linesAfter = 3 ∧ s.depthLimit = 3 := by
    simpa using hs
  obtain ⟨rc, own, hrc, hown, hlayers, -⟩ := loadSettings_precedence hload
  exact ⟨s, rc, own, hload, hlineLength, hlinesAfter, hdepthLimit, hrc, hown, hlayers⟩

end TidyImports
