import TidyImports.Proofs.Command.Steps
import TidyImports.Proofs.Settings.Fitness

/-!
# Configurations that are refused

Settings that make no sense should be refused with an explanation, which a command then reports.
Most of them are; a value of the wrong kind in some places ends the loading with a failure that
nothing reports.

* `Failure.Explained`, `Explains` — the failures that explain themselves, and the steps that have no
  others;
* `failsOnly_environmentSource`, `Draft.failsOnly_checkStatements` and others — the steps that find
  nothing but faults in settings;
* `Derails` — where the loading of settings ends with another failure;
* `loadSettings_explained_iff` — loading, and the command around it, refuse a configuration properly
  exactly when it does not derail.
-/

namespace TidyImports

open TidyImports.Except

/-! ## Explanations -/

/-- A value that makes no sense, or bytes that are no text. -/
def Failure.Explained : Failure → Prop
  | .invalid _ | .undecodable _ => True
  | _ => False

instance (f : Failure) : Decidable f.Explained :=
  match f with
  | .invalid _ | .undecodable _ => .isTrue trivial
  | .disabled | .patch _ | .source _ | .notebook _ | .context _ | .linter .. | .depthLimit ..
  | .lookup .. | .misuse _ => .isFalse id

/-- If it fails, then with an explanation. -/
abbrev Explains {α : Type} (x : Except Failure α) : Prop := Except.FailsOnly Failure.Explained x

theorem explained_failure (fault : SettingsFault) : fault.failure.Explained := trivial

/-! ## Files -/

theorem explains_readConfig (disk : Disk) (p : PathName) : Explains (readConfig disk p) := by
  unfold readConfig
  split
  · exact failsOnly_ok _
  · exact failsOnly_ok _
  · exact failsOnly_error.mpr trivial
  · exact failsOnly_error.mpr trivial
  · split
    · exact failsOnly_ok _
    · rename_i fault _
      cases fault with
      | malformed => exact failsOnly_ok _
      | tooLong n => exact failsOnly_error.mpr trivial

theorem explains_section?_iff {t : Table} {key : String} :
    Explains (section? t key) ↔ ∀ v, t.get? key = some v → ∃ u, v = .table u := by
  unfold section?
  split
  · rename_i hnone
    simp [hnone]
  · rename_i u hu
    simp [hu]
  · rename_i v hkind hv
    refine iff_of_false (fun h => failsOnly_error.mp h) fun h => ?_
    obtain ⟨u, rfl⟩ := h v hv
    exact hkind u rfl

namespace Disk

variable {disk : Disk} {filename start : PathName} {f : Failure}

theorem resolve_error (h : disk.resolve start = .error f) :
    f.Explained ∨ ∃ cause path, f = .lookup cause path := by
  unfold resolve at h
  split at h
  · cases h
    exact Or.inr ⟨_, _, rfl⟩
  · split at h
    · cases h
      exact Or.inl trivial
    · cases h

theorem find?_error (h : disk.find? start = .error f) : ∃ cause path, f = .lookup cause path := by
  unfold find? at h
  split at h
  · cases h
  · cases h
    exact ⟨_, _, rfl⟩
  · cases h

theorem findIn_error {folders : List Place} (h : disk.findIn filename folders = .error f) :
    ∃ cause path, f = .lookup cause path := by
  induction folders with
  | nil => cases h
  | cons folder rest ih =>
    rcases find?_cases disk (PathName.below ⟨"/", folder⟩ filename) with hfile | hlacks | ⟨e, he⟩
    · rw [findIn_cons_file hfile] at h
      cases h
    · rw [findIn_cons_lacks hlacks] at h
      exact ih h
    · rw [findIn_cons_error he] at h
      cases h
      exact find?_error he

/-- A search fails without an explanation only at a name that cannot be looked up. -/
theorem explains_findUpward_iff :
    Explains (disk.findUpward filename start) ↔
      ¬ ∃ cause path, disk.findUpward filename start = .error (.lookup cause path) := by
  constructor
  · rintro h ⟨cause, path, hlookup⟩
    exact h _ hlookup
  · intro h f hf
    have hcases : f.Explained ∨ ∃ cause path, f = .lookup cause path := by
      rcases Except.bind_eq_error_iff.mp hf with hresolve | ⟨name, -, hfind⟩
      · exact resolve_error hresolve
      · exact Or.inr (findIn_error hfind)
    rcases hcases with hexplained | ⟨cause, path, rfl⟩
    · exact hexplained
    · exact absurd ⟨cause, path, hf⟩ h

theorem explains_config_iff {filename : String} :
    Explains (disk.config filename start) ↔
      ¬ ∃ cause path, disk.findUpward (.ofString filename) start = .error (.lookup cause path) := by
  refine failsOnly_bind.trans ?_
  rw [← explains_findUpward_iff, and_iff_left]
  intro found _
  cases found with
  | none => exact failsOnly_ok _
  | some p => exact explains_readConfig disk p

end Disk

/-! ## Steps that only find faults in settings -/

section

variable {expected : Failure → Prop} (hexpected : ∀ fault : SettingsFault, expected fault.failure)
include hexpected

theorem failsOnly_failure {α : Type} (fault : SettingsFault) :
    FailsOnly expected (.error fault.failure : Except Failure α) :=
  failsOnly_error.mpr (hexpected fault)

theorem failsOnly_parseBool (name : String) (text : Text) :
    FailsOnly expected (parseBool name text) := by
  unfold parseBool
  dsimp only
  split
  · exact failsOnly_ok _
  · split
    · exact failsOnly_ok _
    · exact failsOnly_failure hexpected _

theorem failsOnly_parseInt (name : String) (text : Text) :
    FailsOnly expected (parseInt name text) := by
  unfold parseInt
  split
  · exact failsOnly_ok _
  · exact failsOnly_failure hexpected _

theorem failsOnly_parseNumber (name : String) (text : Text) :
    FailsOnly expected (parseNumber name text) := by
  unfold parseNumber
  split
  · exact failsOnly_ok _
  · exact failsOnly_failure hexpected _

omit hexpected in
theorem failsOnly_readVariables {env : Environment}
    {readers : List (Field × (String → Text → Except Failure Value))}
    (h : ∀ e ∈ readers, ∀ name text, FailsOnly expected (e.2 name text)) :
    FailsOnly expected (readVariables env readers) := by
  induction readers with
  | nil => exact failsOnly_ok _
  | cons e rest ih =>
    obtain ⟨f, read⟩ := e
    obtain ⟨hread, hrest⟩ := List.forall_mem_cons.mp h
    unfold readVariables
    split
    · exact ih hrest
    · simp only [failsOnly_bind, failsOnly_pure, implies_true, and_true]
      exact ⟨hread _ _, fun _ _ => ih hrest⟩

theorem failsOnly_environmentSource (env : Environment) :
    FailsOnly expected (environmentSource env) := by
  have hbool := failsOnly_parseBool hexpected
  have hint := failsOnly_parseInt hexpected
  refine failsOnly_readVariables ?_
  simp only [variableReaders, List.forall_mem_cons]
  exact ⟨hbool, hbool, hbool, hint, hint, hint, failsOnly_parseNumber hexpected,
    fun _ _ => failsOnly_ok _, List.forall_mem_nil _⟩

theorem failsOnly_coerceStatements (given : Option Value) :
    FailsOnly expected (coerceStatements given) := by
  unfold coerceStatements
  split
  · exact failsOnly_ok _
  · exact failsOnly_ok _
  · exact failsOnly_failure hexpected _

namespace Draft

theorem failsOnly_checkAutoImports (imports : List (Option AutoImport)) :
    FailsOnly expected (checkAutoImports imports) := by
  induction imports with
  | nil => exact failsOnly_ok _
  | cons a rest ih =>
    cases a with
    | none => exact failsOnly_failure hexpected _
    | some a => exact failsOnly_map.mpr ih

theorem failsOnly_checkStatements (items : List Value) :
    FailsOnly expected (checkStatements items) := by
  induction items with
  | nil => exact failsOnly_ok _
  | cons item rest ih =>
    by_cases hitem : item.Filled
    · obtain ⟨s, rfl, hs⟩ := hitem
      rw [checkStatements_cons_filled rest hs]
      exact failsOnly_map.mpr ih
    · rw [checkStatements_cons_unfit rest hitem]
      exact failsOnly_failure hexpected _

theorem failsOnly_checkInt (name : String) (low : Int) (fault : SettingsFault) (v : Value) :
    FailsOnly expected (checkInt name low fault v) := by
  unfold checkInt
  split
  · split
    · exact failsOnly_failure hexpected _
    · exact failsOnly_ok _
  · exact failsOnly_failure hexpected _

end Draft

end

/-! ## Values -/

theorem AutoImport.explains_ofValue_iff {v : Value} :
    Explains (ofValue v) ↔ ∃ t, v = .table t := by
  have hwritable (t : Table) : Explains (Value.table t).checkWritable := by
    unfold Value.checkWritable
    split
    · exact failsOnly_error.mpr trivial
    · exact failsOnly_ok _
  unfold ofValue
  split
  · rename_i t
    refine iff_of_true ?_ ⟨t, rfl⟩
    split
    · exact failsOnly_bind.mpr ⟨hwritable t, fun _ _ => failsOnly_failure explained_failure _⟩
    · exact failsOnly_bind.mpr ⟨hwritable t, fun _ _ => failsOnly_failure explained_failure _⟩
    · exact failsOnly_ok _
  · rename_i hother
    refine iff_of_false (fun h => failsOnly_error.mp h) ?_
    rintro ⟨t, rfl⟩
    exact hother t rfl

/-- The first entry that is no automatic import is not even a table. -/
abbrev StrayFirst (entries : List Value) : Prop :=
  Except.FirstStray Value.IsEntry (fun e => ∀ t, e ≠ .table t) entries

theorem explains_readAutoImports_iff {entries : List Value} :
    Explains (readAutoImports entries) ↔ ¬ StrayFirst entries := by
  induction entries with
  | nil => exact iff_of_true (failsOnly_ok _) not_firstStray_nil
  | cons e rest ih =>
    simp only [readAutoImports, failsOnly_bind, failsOnly_pure, implies_true,
      and_true, ih, AutoImport.explains_ofValue_iff, firstStray_cons_iff, not_or, not_and]
    refine and_congr (by simp [not_forall]) ?_
    constructor
    · intro h he
      obtain ⟨a, ha, -⟩ := AutoImport.ofValue_of_isEntry he
      exact h a ha
    · intro h a ha
      exact h (AutoImport.isEntry_of_ofValue ha)

theorem explains_coerceAutoImports_iff {given : Option Value} :
    Explains (coerceAutoImports given) ↔
      ∀ entries, given = some (.list entries) → ¬ StrayFirst entries := by
  unfold coerceAutoImports
  split
  · exact iff_of_true (failsOnly_ok _) nofun
  · rename_i entries
    rw [explains_readAutoImports_iff]
    constructor
    · intro h entries' heq
      cases heq
      exact h
    · intro h
      exact h entries rfl
  · rename_i v hother
    refine iff_of_true (failsOnly_failure explained_failure _) fun entries heq => ?_
    cases heq
    exact absurd rfl (hother entries)

theorem explains_coerceTimeout_iff {given : Option Value} :
    Explains (coerceTimeout given) ↔
      ∀ n, given = some (.int n) → (Binary64.ofInt n).isFinite = true := by
  cases given with
  | none => exact iff_of_true (failsOnly_ok _) (by simp)
  | some v =>
    cases v with
    | int n =>
      simp only [coerceTimeout, Option.some.injEq, Value.int.injEq, forall_eq']
      split
      · rename_i hfinite
        exact iff_of_true (failsOnly_ok _) hfinite
      · rename_i hinfinite
        exact iff_of_false (fun h => failsOnly_error.mp h) hinfinite
    | _ => exact iff_of_true (failsOnly_ok _) (by simp)

/-! ## Checks -/

namespace Draft

theorem explains_checkTimeout_iff {v : Value} :
    Explains (checkTimeout v) ↔ atMostZero? v ≠ none := by
  unfold checkTimeout
  split
  · rename_i hnone
    exact iff_of_false (fun h => failsOnly_error.mp h) fun h => h hnone
  · rename_i hsome
    exact iff_of_true (failsOnly_failure explained_failure _) (by simp [hsome])
  · rename_i hsome
    exact iff_of_true (failsOnly_ok _) (by simp [hsome])

/-- Everything before the timeout is checked with an explanation, so that only a timeout which
cannot be compared is left. -/
theorem explains_settle_iff {d : Draft} :
    Explains d.settle ↔
      ∀ imports, checkAutoImports d.autoImports = .ok imports →
      ∀ statements, checkStatements d.alwaysImport = .ok statements →
      ∀ lineLength, checkInt "line_length" 1 .lineLengthLow d.lineLength = .ok lineLength →
      ∀ linesAfter, checkInt "lines_after_imports" (-1) .linesAfterLow d.linesAfter =
        .ok linesAfter →
      ∀ depthLimit, checkInt "depth_limit" 0 .depthLimitLow d.depthLimit = .ok depthLimit →
        atMostZero? d.timeout ≠ none := by
  simp only [settle, failsOnly_bind, failsOnly_checkAutoImports explained_failure,
    failsOnly_checkStatements explained_failure, failsOnly_checkInt explained_failure,
    explains_checkTimeout_iff, failsOnly_pure, implies_true, and_true, true_and]

end Draft

/-! ## Values that derail the check -/

theorem coerceAutoImports_ok_iff {given : Option Value} :
    (∃ imports, coerceAutoImports given = .ok imports) ↔
      ∀ v, given = some v → Field.autoImports.Accepts v := by
  simp only [coerceAutoImports_eq_ok_iff]
  constructor
  · rintro ⟨_, _, -, hkeeps⟩
    exact hkeeps.1
  · intro h
    have hkeeps : Field.autoImports.Keeps given _ := ⟨h, rfl⟩
    obtain ⟨read, hread⟩ := hkeeps.exists_imports
    exact ⟨_, read, rfl, hread ▸ hkeeps⟩

theorem coerceStatements_ok_iff {given : Option Value} :
    (∃ items, coerceStatements given = .ok items) ↔
      ∀ v, given = some v → ∃ items, v = .list items := by
  unfold coerceStatements
  split
  · exact iff_of_true ⟨_, rfl⟩ nofun
  · refine iff_of_true ⟨_, rfl⟩ ?_
    rintro v ⟨⟩
    exact ⟨_, rfl⟩
  · rename_i v hother
    refine iff_of_false (by simp [SettingsFault.failure]) fun h => ?_
    obtain ⟨items, rfl⟩ := h v rfl
    exact hother items rfl

/-- The given values make a check itself fail: the first unfit entry of the automatic imports is no
table, an integer timeout is beyond the doubles, or a timeout is no number at all. The timeout comes
last in both passes over the values, so a mistake before it is found first. -/
inductive Mistaken (given : Field → Option Value) : Prop
  | stray {entries : List Value} (hgiven : given .autoImports = some (.list entries))
    (hstray : StrayFirst entries)
  | infinite {n : Int}
    (hautoImports : ∀ v, given .autoImports = some v → Field.autoImports.Accepts v)
    (halwaysImport : ∀ v, given .alwaysImport = some v → ∃ items, v = .list items)
    (hgiven : given .timeout = some (.int n)) (hinfinite : (Binary64.ofInt n).isFinite = false)
  | incomparable {v : Value}
    (hothers : ∀ f : Field, f ≠ .timeout → ∀ w, given f = some w → f.Accepts w)
    (hgiven : given .timeout = some v) (hkind : Draft.atMostZero? v = none)

theorem explains_draft_iff {sources : List Source} :
    Explains (Draft.ofSources sources) ↔
      (∀ entries, Source.pick sources .autoImports = some (.list entries) → ¬ StrayFirst entries) ∧
        ((∀ v, Source.pick sources .autoImports = some v → Field.autoImports.Accepts v) →
          (∀ v, Source.pick sources .alwaysImport = some v → ∃ items, v = .list items) →
          ∀ n, Source.pick sources .timeout = some (.int n) →
            (Binary64.ofInt n).isFinite = true) := by
  simp only [Draft.ofSources, failsOnly_bind, explains_coerceAutoImports_iff,
    failsOnly_coerceStatements explained_failure, explains_coerceTimeout_iff, failsOnly_pure,
    implies_true, and_true, true_and, ← coerceAutoImports_ok_iff, ← coerceStatements_ok_iff,
    forall_exists_index]

theorem coerceTimeout_incomparable {v : Value} (h : Draft.atMostZero? v = none) :
    coerceTimeout (some v) = .ok v := by
  cases v with
  | bool | int | float => cases h
  | _ => rfl

theorem atMostZero?_coerce_eq_none {v : Value}
    (h : Draft.atMostZero? (Field.timeout.coerce v) = none) : Draft.atMostZero? v = none := by
  cases v with
  | bool | int => cases h
  | _ => exact h

/-- Values that the other fields accept lead to the check of the timeout. -/
theorem reaches_timeout {sources : List Source} {w : Value}
    (hothers : ∀ f : Field, f ≠ .timeout → ∀ v, Source.pick sources f = some v → f.Accepts v)
    (hw : coerceTimeout (Source.pick sources .timeout) = .ok w)
    (h : Explains (Settings.ofSources sources)) : Draft.atMostZero? w ≠ none := by
  -- settings of the same values but for the timeout, which pass every check before it
  obtain ⟨s, hs⟩ : ∃ s : Settings, ∀ f : Field,
      f.Keeps (Function.update (Source.pick sources) .timeout none f) (s.get f) := by
    refine Settings.exists_keeps fun f v hv => ?_
    by_cases hf : f = .timeout
    · rw [hf, Function.update_self] at hv
      cases hv
    · rw [Function.update_of_ne hf] at hv
      exact hothers f hf v hv
  have hkeeps (f : Field) (hf : f ≠ .timeout) : f.Keeps (Source.pick sources f) (s.get f) := by
    simpa [Function.update_of_ne hf] using hs f
  obtain ⟨items, hitems, hstatements⟩ :=
    coerceStatements_checked_iff.mpr (hkeeps .alwaysImport (by decide))
  have hd : Draft.ofSources sources =
      .ok ⟨_, s.autoImports.map some, items, _, _, _, _, _, w⟩ :=
    Draft.ofSources_eq_ok_iff.mpr
      ⟨coerceAutoImports_eq_ok_iff.mpr ⟨_, rfl, hkeeps .autoImports (by decide)⟩, hitems, hw, rfl,
        rfl, rfl, rfl, rfl, rfl⟩
  exact Draft.explains_settle_iff.mp ((failsOnly_bind.mp h).2 _ hd)
    _ (Draft.checkAutoImports_map_some _) _ hstatements
    _ (checkLineLength_iff.mpr (hkeeps .lineLength (by decide)))
    _ (checkLinesAfter_iff.mpr (hkeeps .linesAfter (by decide)))
    _ (checkDepthLimit_iff.mpr (hkeeps .depthLimit (by decide)))

/-- The check of the timeout is reached with values that the other fields accept. -/
theorem accepts_of_checked {sources : List Source} {d : Draft} {statements : List String}
    {lineLength linesAfter depthLimit : Int} (hd : Draft.ofSources sources = .ok d)
    (hstatements : Draft.checkStatements d.alwaysImport = .ok statements)
    (hline : Draft.checkInt "line_length" 1 .lineLengthLow d.lineLength = .ok lineLength)
    (hafter : Draft.checkInt "lines_after_imports" (-1) .linesAfterLow d.linesAfter =
      .ok linesAfter)
    (hdepth : Draft.checkInt "depth_limit" 0 .depthLimitLow d.depthLimit = .ok depthLimit)
    {f : Field} (hf : f ≠ .timeout) : ∀ v, Source.pick sources f = some v → f.Accepts v := by
  obtain ⟨himports, hitems, -, -, -, -, hline', hafter', hdepth'⟩ :=
    Draft.ofSources_eq_ok_iff.mp hd
  cases f with
  | enabled | removeUnused | organize => exact fun _ _ => trivial
  | autoImports => exact coerceAutoImports_ok_iff.mp ⟨_, himports⟩
  | alwaysImport => exact (coerceStatements_checked_iff.mp ⟨_, hitems, hstatements⟩).1
  | lineLength => exact (checkLineLength_iff.mp (hline' ▸ hline)).1
  | linesAfter => exact (checkLinesAfter_iff.mp (hafter' ▸ hafter)).1
  | depthLimit => exact (checkDepthLimit_iff.mp (hdepth' ▸ hdepth)).1
  | timeout => exact absurd rfl hf

/-- A coerced timeout that cannot be compared was given as it is. -/
theorem incomparable_of_coerceTimeout {given : Option Value} {w : Value}
    (h : coerceTimeout given = .ok w) (hw : Draft.atMostZero? w = none) :
    ∃ v, given = some v ∧ Draft.atMostZero? v = none := by
  cases given with
  | none =>
    cases h
    cases hw
  | some v =>
    obtain ⟨-, rfl⟩ := coerceTimeout_some_eq_ok_iff.mp h
    exact ⟨v, rfl, atMostZero?_coerce_eq_none hw⟩

/-- Sources fail with an explanation, if at all, exactly when no check itself fails. -/
theorem explains_ofSources_iff {sources : List Source} :
    Explains (Settings.ofSources sources) ↔ ¬ Mistaken (Source.pick sources) := by
  constructor
  · intro h hmistaken
    obtain ⟨hstray, hinfinite⟩ := explains_draft_iff.mp (failsOnly_bind.mp h).1
    cases hmistaken with
    | stray hgiven hfirst => exact hstray _ hgiven hfirst
    | infinite hautoImports halwaysImport hgiven hn =>
      rw [hinfinite hautoImports halwaysImport _ hgiven] at hn
      cases hn
    | incomparable hothers hgiven hkind =>
      exact reaches_timeout hothers (hgiven ▸ coerceTimeout_incomparable hkind) h hkind
  · intro hmistaken
    refine failsOnly_bind.mpr ⟨explains_draft_iff.mpr ⟨?_, ?_⟩, fun d hd => ?_⟩
    · intro entries hgiven hfirst
      exact hmistaken (.stray hgiven hfirst)
    · intro hautoImports halwaysImport n hgiven
      by_contra hn
      exact hmistaken (.infinite hautoImports halwaysImport hgiven (by simpa using hn))
    · refine Draft.explains_settle_iff.mpr ?_
      intro _ _ statements hstatements lineLength hline linesAfter hafter depthLimit hdepth hkind
      obtain ⟨-, -, hw, -⟩ := Draft.ofSources_eq_ok_iff.mp hd
      obtain ⟨v, hgiven, hv⟩ := incomparable_of_coerceTimeout hw hkind
      have hothers (f : Field) (hf : f ≠ .timeout) :=
        accepts_of_checked hd hstatements hline hafter hdepth hf
      exact hmistaken (.incomparable hothers hgiven hv)

/-! ## Loading -/

theorem explains_projectSource_iff {disk : Disk} {start : PathName} :
    Explains (projectSource disk start) ↔
      (¬ ∃ cause path,
        disk.findUpward (.ofString projectName) start = .error (.lookup cause path)) ∧
      ∀ project, disk.Configured projectName start project →
        (∀ v, Table.get? project "tool" = some v → ∃ u, v = .table u) ∧
        ∀ tool, Table.Section project "tool" tool →
          ∀ v, Table.get? tool "important" = some v → ∃ u, v = .table u := by
  simp only [projectSource_eq, failsOnly_bind, Disk.explains_config_iff, Disk.config_eq_ok_iff,
    explains_section?_iff, section?_eq_ok_iff, failsOnly_pure, implies_true, and_true]

theorem explains_rcSource_iff {disk : Disk} {start : PathName} :
    Explains (rcSource disk start) ↔
      ¬ ∃ cause path, disk.findUpward (.ofString rcName) start = .error (.lookup cause path) := by
  rw [rcSource_eq]
  exact failsOnly_map.trans Disk.explains_config_iff

/-- Where the loading of settings ends with a failure that explains nothing: a folder is gone or a
name too long to be looked up, `tool` or `tool.important` is no table, or the values that the
sources give make a check itself fail. -/
inductive Derails (disk : Disk) (env : Environment) (overrides : Table) (start : PathName) : Prop
  | projectLookup {cause : FileCause} {path : String}
    (h : disk.findUpward (.ofString projectName) start = .error (.lookup cause path))
  | tool {project : Table} {v : Value} (hproject : disk.Configured projectName start project)
    (hv : Table.get? project "tool" = some v) (hkind : ∀ u, v ≠ .table u)
  | important {project tool : Table} {v : Value}
    (hproject : disk.Configured projectName start project)
    (htool : Table.Section project "tool" tool) (hv : Table.get? tool "important" = some v)
    (hkind : ∀ u, v ≠ .table u)
  | rcLookup {own : Table} {cause : FileCause} {path : String} (hown : disk.OwnSection start own)
    (h : disk.findUpward (.ofString rcName) start = .error (.lookup cause path))
  | values {given : Field → Option Value} (hgiven : Given disk env overrides start given)
    (h : Mistaken given)

theorem explains_loadSettings_iff {disk : Disk} {env : Environment} {overrides : Table}
    {start : PathName} :
    Explains (loadSettings disk env overrides start) ↔ ¬ Derails disk env overrides start := by
  simp only [loadSettings_eq, failsOnly_bind, failsOnly_environmentSource explained_failure,
    true_and, projectSource_eq_ok_iff, rcSource_eq_ok_iff, forall_exists_index, and_imp,
    forall_apply_eq_imp_iff₂, explains_projectSource_iff, explains_rcSource_iff,
    explains_ofSources_iff]
  constructor
  · rintro ⟨⟨hlookup, htables⟩, hrest⟩ hderails
    cases hderails with
    | projectLookup h => exact hlookup ⟨_, _, h⟩
    | tool hproject hv hkind =>
      obtain ⟨u, rfl⟩ := (htables _ hproject).1 _ hv
      exact hkind u rfl
    | important hproject htool hv hkind =>
      obtain ⟨u, rfl⟩ := (htables _ hproject).2 _ htool _ hv
      exact hkind u rfl
    | rcLookup hown h => exact (hrest _ hown).1 ⟨_, _, h⟩
    | values hgiven h =>
      obtain ⟨rc, own, environment, hrc, hown, henvironment, rfl⟩ := given_iff.mp hgiven
      exact (hrest own hown).2 rc hrc environment henvironment h
  · intro hderails
    refine ⟨⟨?_, fun project hproject => ⟨?_, fun tool htool => ?_⟩⟩, fun own hown => ⟨?_, ?_⟩⟩
    · rintro ⟨cause, path, h⟩
      exact hderails (.projectLookup h)
    · intro v hv
      by_contra hkind
      exact hderails (.tool hproject hv fun u hu => hkind ⟨u, hu⟩)
    · intro v hv
      by_contra hkind
      exact hderails (.important hproject htool hv fun u hu => hkind ⟨u, hu⟩)
    · rintro ⟨cause, path, h⟩
      exact hderails (.rcLookup hown h)
    · intro rc hrc environment henvironment hmistaken
      refine hderails (.values (given_iff.mpr ?_) hmistaken)
      exact ⟨rc, own, environment, hrc, hown, henvironment, rfl⟩

/-! ## The command around it -/

namespace Command

variable {ρ : Type}

/-- The line that a command tells of a failure to load its settings. -/
def invalidLine (f : Failure) : Text :=
  Text.withoutCodes ("Error: Invalid configuration: " ++ f.message ++ "\n").toList

/-- The command has its settings, or has told why it has none and exits with 1. -/
def Tells (overrides : Table) (start : PathName) (s : Session (World ρ)) : Prop :=
  (∃ found, outcome (settings overrides start) s = (.ok found, s)) ∨
    ∃ f, loadSettings s.world.disk s.world.env overrides start = .error f ∧
      outcome (settings overrides start) s =
        (.error (.exit 1),
          { s with world := { s.world with errors := s.world.errors ++ invalidLine f } })

theorem outcome_refuse {α : Type} (message : String) (s : Session (World ρ)) :
    outcome (refuse message : Command ρ α) s =
      (.error (.exit 1),
        { s with world :=
            { s.world with errors :=
                s.world.errors ++ Text.withoutCodes ("Error: " ++ message ++ "\n").toList } }) :=
  rfl

theorem tells_iff {overrides : Table} {start : PathName} {s : Session (World ρ)} :
    Tells overrides start s ↔ Explains (loadSettings s.world.disk s.world.env overrides start) := by
  unfold Tells settings
  rw [outcome_world_bind]
  cases loadSettings s.world.disk s.world.env overrides start with
  | ok found => exact iff_of_true (Or.inl ⟨found, rfl⟩) (failsOnly_ok _)
  | error f =>
    refine Iff.trans ?_ failsOnly_error.symm
    cases f with
    | invalid what =>
      refine iff_of_true (Or.inr ⟨_, rfl, ?_⟩) trivial
      rw [outcome_refuse, ← String.append_assoc]
      rfl
    | undecodable fault =>
      refine iff_of_true (Or.inr ⟨_, rfl, ?_⟩) trivial
      rw [outcome_refuse, ← String.append_assoc]
      rfl
    | _ =>
      refine iff_of_false ?_ id
      rintro (⟨found, hfound⟩ | ⟨f, -, hexit⟩)
      · cases hfound
      · cases hexit

end Command

/-- Loading either gives settings or refuses the configuration with an explanation, and a command
either has its settings or tells the explanation and exits with 1, exactly when the configuration
does not derail. -/
theorem loadSettings_explained_iff {ρ : Type} (overrides : Table) (start : PathName)
    (s : Session (World ρ)) :
    ((∀ f, loadSettings s.world.disk s.world.env overrides start = .error f → f.Explained) ↔
        ¬ Derails s.world.disk s.world.env overrides start) ∧
      (Command.Tells overrides start s ↔
        ¬ Derails s.world.disk s.world.env overrides start) :=
  ⟨explains_loadSettings_iff, Command.tells_iff.trans explains_loadSettings_iff⟩

/-- An automatic import that is no table, a timeout that is no number, and a project file whose
`tool` is no table. -/
theorem loadSettings_derailed :
    (∃ f, loadSettings (.holding rcName "auto_imports = [\"pd\"]\n") [] [] (.ofString ".") =
        .error f ∧ ¬ f.Explained) ∧
      (∃ f, loadSettings (.holding rcName "oracle_timeout = \"5\"\n") [] [] (.ofString ".") =
        .error f ∧ ¬ f.Explained) ∧
      ∃ f, loadSettings (.holding projectName "tool = 1\n") [] [] (.ofString ".") =
        .error f ∧ ¬ f.Explained := by
  have derails {disk : Disk}
      (h : failsWith (fun f => !decide f.Explained) (loadSettings disk [] [] (.ofString ".")) =
        true) :
      ∃ f, loadSettings disk [] [] (.ofString ".") = .error f ∧ ¬ f.Explained := by
    obtain ⟨f, hf, hexplained⟩ := failsWith_iff.mp h
    exact ⟨f, hf, by simpa using hexplained⟩
  exact ⟨derails (by decide +kernel), derails (by decide +kernel), derails (by decide +kernel)⟩

end TidyImports
