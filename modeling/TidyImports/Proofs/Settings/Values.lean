import TidyImports.Proofs.Data.Except
import TidyImports.Proofs.Data.Table
import TidyImports.Settings.Sources

/-!
# From given values to settings

Each field is settled by itself: it accepts the value that is given for it or refuses it, and holds
what it coerces an accepted value to.

* `Settings.get` — the value that settings hold for a field;
* `Field.Accepts`, `Field.coerce` — the values that a field takes, and what it makes of them;
* `Settings.ofSources_eq_ok_iff` — sources give settings exactly when every field takes its value.
-/

namespace TidyImports

/-! ## Fields of settings -/

/-- The value that settings hold for a field. -/
def Settings.get (s : Settings) : Field → Value
  | .enabled => s.enabled
  | .autoImports => .list (s.autoImports.map AutoImport.toValue)
  | .alwaysImport => .list (s.alwaysImport.map .text)
  | .removeUnused => s.removeUnused
  | .organize => s.organize
  | .lineLength => .int s.lineLength
  | .linesAfter => .int s.linesAfter
  | .depthLimit => .int s.depthLimit
  | .timeout => s.timeout

/-! ## Texts -/

theorem Text.all_dropWhile (p : Char → Bool) (text : Text) :
    (text.dropWhile p).all p = text.all p := by
  induction text with
  | nil => rfl
  | cons c rest ih =>
    by_cases hc : p c
    · rw [List.dropWhile_cons_of_pos hc, ih, List.all_cons, hc, Bool.true_and]
    · rw [List.dropWhile_cons_of_neg hc]

theorem Text.allBlank_strip (text : Text) :
    Text.allBlank (Text.strip text) = Text.allBlank text := by
  simp only [allBlank, strip, stripWith, List.all_reverse, all_dropWhile]

namespace Value

/-- A text that is not blank. -/
def Filled (v : Value) : Prop := ∃ s, v = .text s ∧ Text.allBlank s.toList = false

/-- A text without the white space around it. -/
def stripped : Value → Value
  | .text s => .text (String.ofList (Text.strip s.toList))
  | v => v

theorem Filled.stripped {v : Value} (h : v.Filled) : v.stripped.Filled := by
  obtain ⟨s, rfl, hs⟩ := h
  exact ⟨_, rfl, by rw [String.toList_ofList, Text.allBlank_strip, hs]⟩

theorem exists_text_eq {items : List Value} (h : ∀ item ∈ items, item.Filled) :
    ∃ statements : List String, statements.map Value.text = items := by
  induction items with
  | nil => exact ⟨[], rfl⟩
  | cons item rest ih =>
    obtain ⟨⟨s, rfl, -⟩, hrest⟩ := List.forall_mem_cons.mp h
    obtain ⟨statements, rfl⟩ := ih hrest
    exact ⟨s :: statements, rfl⟩

/-! ## Automatic imports -/

/-- A table with texts that are not blank under `variable` and under `import`. -/
def IsEntry (v : Value) : Prop :=
  ∃ t name statement, v = .table t ∧ Table.get? t "variable" = some name ∧ name.Filled ∧
    Table.get? t "import" = some statement ∧ statement.Filled

/-- The two texts of an entry, without the white space around them. -/
def tidyEntry : Value → Value
  | .table t =>
    .table (["variable", "import"].map fun key => (key, ((Table.get? t key).getD .null).stripped))
  | v => v

theorem IsEntry.tidyEntry {v : Value} (h : v.IsEntry) : v.tidyEntry.IsEntry := by
  obtain ⟨t, name, statement, rfl, hname, hnameFilled, hstatement, hstatementFilled⟩ := h
  refine ⟨_, name.stripped, statement.stripped, rfl, ?_, hnameFilled.stripped, ?_,
    hstatementFilled.stripped⟩
  · simp [Table.get?_cons, hname]
  · simp [Table.get?_cons, hstatement]

end Value

namespace AutoImport

theorem toValue_injective : Function.Injective toValue := by
  rintro ⟨name, statement⟩ ⟨name', statement'⟩ h
  simpa [toValue] using h

theorem filled?_eq_some_iff {v : Option Value} {text : Text} :
    filled? v = some text ↔
      ∃ s, v = some (.text s) ∧ Text.allBlank s.toList = false ∧ s.toList = text := by
  unfold filled?
  split
  · rename_i s
    by_cases hs : Text.allBlank s.toList
    · simp [hs]
    · simp [hs]
  · rename_i hother
    simp only [reduceCtorEq, false_iff]
    rintro ⟨s, rfl, -⟩
    exact hother s rfl

theorem filled?_of_filled {v : Value} (h : v.Filled) :
    ∃ text, filled? (some v) = some text ∧
      v.stripped = .text (String.ofList (Text.strip text)) := by
  obtain ⟨s, rfl, hs⟩ := h
  exact ⟨s.toList, filled?_eq_some_iff.mpr ⟨s, rfl, hs, rfl⟩, rfl⟩

theorem filled_of_filled? {v : Option Value} {text : Text} (h : filled? v = some text) :
    ∃ w, v = some w ∧ w.Filled := by
  obtain ⟨s, rfl, hs, -⟩ := filled?_eq_some_iff.mp h
  exact ⟨_, rfl, s, rfl, hs⟩

theorem ofValue_of_isEntry {v : Value} (h : v.IsEntry) :
    ∃ a, ofValue v = .ok a ∧ a.toValue = v.tidyEntry := by
  obtain ⟨t, name, statement, rfl, hname, hnameFilled, hstatement, hstatementFilled⟩ := h
  obtain ⟨nameText, hnameText, hnameStripped⟩ := filled?_of_filled hnameFilled
  obtain ⟨statementText, hstatementText, hstatementStripped⟩ := filled?_of_filled hstatementFilled
  refine ⟨⟨name.stripped, statement.stripped⟩, ?_, ?_⟩
  · simp only [ofValue, hname, hstatement, hnameText, hstatementText, hnameStripped,
      hstatementStripped]
  · simp [toValue, Value.tidyEntry, hname, hstatement]

theorem isEntry_of_ofValue {v : Value} {a : AutoImport} (h : ofValue v = .ok a) : v.IsEntry := by
  unfold ofValue at h
  split at h
  · rename_i t
    split at h
    · exact absurd h (by cases hw : (Value.table t).checkWritable <;> nofun)
    · exact absurd h (by cases hw : (Value.table t).checkWritable <;> nofun)
    · rename_i name statement hname hstatement
      obtain ⟨nameValue, hnameValue, hnameFilled⟩ := filled_of_filled? hname
      obtain ⟨statementValue, hstatementValue, hstatementFilled⟩ := filled_of_filled? hstatement
      exact ⟨t, nameValue, statementValue, rfl, hnameValue, hnameFilled, hstatementValue,
        hstatementFilled⟩
  · cases h

theorem ofValue_eq_ok_iff {v : Value} {a : AutoImport} :
    ofValue v = .ok a ↔ v.IsEntry ∧ a.toValue = v.tidyEntry := by
  constructor
  · intro h
    have hentry := isEntry_of_ofValue h
    obtain ⟨a', ha', hvalue⟩ := ofValue_of_isEntry hentry
    cases h.symm.trans ha'
    exact ⟨hentry, hvalue⟩
  · rintro ⟨hentry, ha⟩
    obtain ⟨a', ha', hvalue⟩ := ofValue_of_isEntry hentry
    rw [ha', toValue_injective (hvalue.trans ha.symm)]

theorem exists_toValue_eq {entries : List Value} (h : ∀ e ∈ entries, e.IsEntry) :
    ∃ read : List AutoImport, read.map toValue = entries.map Value.tidyEntry := by
  induction entries with
  | nil => exact ⟨[], rfl⟩
  | cons e rest ih =>
    obtain ⟨he, hrest⟩ := List.forall_mem_cons.mp h
    obtain ⟨a, -, ha⟩ := ofValue_of_isEntry he
    obtain ⟨read, hread⟩ := ih hrest
    exact ⟨a :: read, by rw [List.map_cons, List.map_cons, ha, hread]⟩

end AutoImport

theorem readAutoImports_eq_ok_iff {entries : List Value} {imports : List (Option AutoImport)} :
    readAutoImports entries = .ok imports ↔
      (∀ e ∈ entries, e.IsEntry) ∧
        ∃ read : List AutoImport, imports = read.map some ∧
          read.map AutoImport.toValue = entries.map Value.tidyEntry := by
  induction entries generalizing imports with
  | nil =>
    simp only [readAutoImports, Except.ok.injEq, List.not_mem_nil, List.map_nil,
      List.map_eq_nil_iff]
    simp [eq_comm]
  | cons e rest ih =>
    simp only [readAutoImports, Except.bind_eq_ok_iff, ih, AutoImport.ofValue_eq_ok_iff,
      List.forall_mem_cons]
    constructor
    · rintro ⟨a, ⟨he, ha⟩, -, ⟨hrest, read, rfl, hread⟩, himports⟩
      cases himports
      exact ⟨⟨he, hrest⟩, a :: read, rfl, by rw [List.map_cons, List.map_cons, ha, hread]⟩
    · rintro ⟨⟨he, hrest⟩, read, rfl, hread⟩
      cases read with
      | nil => cases hread
      | cons a read =>
        rw [List.map_cons, List.map_cons, List.cons.injEq] at hread
        exact ⟨a, ⟨he, hread.1⟩, _, ⟨hrest, read, rfl, hread.2⟩, rfl⟩

/-! ## The check of a draft -/

namespace Draft

theorem checkAutoImports_map_some (imports : List AutoImport) :
    checkAutoImports (imports.map some) = .ok imports := by
  induction imports with
  | nil => rfl
  | cons a rest ih =>
    rw [List.map_cons, checkAutoImports, ih]
    rfl

theorem checkStatements_cons_filled {s : String} (rest : List Value)
    (h : Text.allBlank s.toList = false) :
    checkStatements (.text s :: rest) = (checkStatements rest).map (s :: ·) := by
  simp [checkStatements, h]

theorem checkStatements_cons_unfit {item : Value} (rest : List Value) (h : ¬ item.Filled) :
    checkStatements (item :: rest) = .error SettingsFault.blankStatement.failure := by
  cases item with
  | text s =>
    cases hs : Text.allBlank s.toList with
    | false => exact absurd ⟨s, rfl, hs⟩ h
    | true => simp [checkStatements, hs]
  | _ => rfl

theorem checkStatements_eq_ok_iff {items : List Value} {statements : List String} :
    checkStatements items = .ok statements ↔
      (∀ item ∈ items, item.Filled) ∧ statements.map Value.text = items := by
  induction items generalizing statements with
  | nil => simp [checkStatements, eq_comm]
  | cons item rest ih =>
    rw [List.forall_mem_cons]
    by_cases hitem : item.Filled
    · rw [and_iff_right hitem]
      obtain ⟨s, rfl, hs⟩ := hitem
      simp only [checkStatements_cons_filled rest hs, Except.map_eq_ok_iff, ih]
      constructor
      · rintro ⟨read, ⟨hrest, rfl⟩, rfl⟩
        exact ⟨hrest, rfl⟩
      · rintro ⟨hrest, hread⟩
        obtain ⟨t, read, rfl, ht, hreadRest⟩ := List.map_eq_cons_iff.mp hread
        cases ht
        exact ⟨read, ⟨hrest, hreadRest⟩, rfl⟩
    · rw [checkStatements_cons_unfit rest hitem]
      exact iff_of_false nofun fun h => hitem h.1.1

theorem checkInt_eq_ok_iff {field : String} {low : Int} {fault : SettingsFault} {v : Value}
    {n : Int} : checkInt field low fault v = .ok n ↔ v = .int n ∧ low ≤ n := by
  unfold checkInt
  split
  · rename_i m
    split
    · rename_i hlow
      refine iff_of_false nofun ?_
      rintro ⟨hm, hn⟩
      cases hm
      omega
    · rename_i hlow
      constructor
      · intro h
        cases h
        exact ⟨rfl, by omega⟩
      · rintro ⟨hm, -⟩
        cases hm
        rfl
  · rename_i hother
    refine iff_of_false nofun ?_
    rintro ⟨rfl, -⟩
    exact hother n rfl

theorem checkTimeout_eq_ok_iff {v w : Value} :
    checkTimeout v = .ok w ↔ atMostZero? v = some false ∧ w = v := by
  unfold checkTimeout
  split <;> simp [*, eq_comm, SettingsFault.failure]

end Draft

/-! ## What a field takes -/

namespace Field

/-- What a field makes of a value that it accepts. -/
def coerce : Field → Value → Value
  | .autoImports, .list entries => .list (entries.map Value.tidyEntry)
  | .timeout, .bool b => .float (Binary64.ofInt (if b then 1 else 0))
  | .timeout, .int n => .float (Binary64.ofInt n)
  | _, v => v

/-- The three fields that are used for their truth only. -/
def IsSwitch (f : Field) : Prop := f = .enabled ∨ f = .removeUnused ∨ f = .organize

instance (f : Field) : Decidable f.IsSwitch := inferInstanceAs (Decidable (_ ∨ _))

/-- The values that a field accepts. A switch accepts every value, a timeout every number that is
not known to be zero or less. -/
def Accepts : Field → Value → Prop
  | .enabled, _ | .removeUnused, _ | .organize, _ => True
  | .autoImports, v => ∃ entries, v = .list entries ∧ ∀ e ∈ entries, e.IsEntry
  | .alwaysImport, v => ∃ items, v = .list items ∧ ∀ item ∈ items, item.Filled
  | .lineLength, v => ∃ n, v = .int n ∧ 1 ≤ n
  | .linesAfter, v => ∃ n, v = .int n ∧ -1 ≤ n
  | .depthLimit, v => ∃ n, v = .int n ∧ 0 ≤ n
  | .timeout, v =>
    (∀ n, v = .int n → (Binary64.ofInt n).isFinite = true) ∧
      Draft.atMostZero? (Field.timeout.coerce v) = some false

/-- The given value is accepted and coerced; without one the default is kept. -/
def Keeps (f : Field) (given : Option Value) (kept : Value) : Prop :=
  (∀ v, given = some v → f.Accepts v) ∧ kept = (given.map f.coerce).getD (Settings.get {} f)

@[simp]
theorem keeps_none {f : Field} {kept : Value} : f.Keeps none kept ↔ kept = Settings.get {} f := by
  simp [Keeps]

@[simp]
theorem keeps_some {f : Field} {v kept : Value} :
    f.Keeps (some v) kept ↔ f.Accepts v ∧ kept = f.coerce v := by
  simp [Keeps]

end Field

theorem coerceAutoImports_eq_ok_iff {given : Option Value} {imports : List (Option AutoImport)} :
    coerceAutoImports given = .ok imports ↔
      ∃ read : List AutoImport, imports = read.map some ∧
        Field.autoImports.Keeps given (.list (read.map AutoImport.toValue)) := by
  cases given with
  | none =>
    simp only [coerceAutoImports, Except.ok.injEq, Field.keeps_none, Settings.get, Value.list.injEq,
      (List.map_injective_iff.mpr AutoImport.toValue_injective).eq_iff]
    constructor
    · rintro rfl
      exact ⟨_, rfl, rfl⟩
    · rintro ⟨_, rfl, rfl⟩
      rfl
  | some v =>
    rw [coerceAutoImports.eq_def]
    split
    · cases ‹some v = none›
    · rename_i entries hv
      cases hv
      simp only [readAutoImports_eq_ok_iff, Field.keeps_some, Field.Accepts, Field.coerce,
        Value.list.injEq, exists_eq_left']
      constructor
      · rintro ⟨hentries, read, rfl, hread⟩
        exact ⟨read, rfl, hentries, hread⟩
      · rintro ⟨read, rfl, hentries, hread⟩
        exact ⟨hentries, read, rfl, hread⟩
    · rename_i v' hother hv
      cases hv
      refine iff_of_false nofun ?_
      rintro ⟨read, -, hkeeps⟩
      obtain ⟨⟨entries, rfl, -⟩, -⟩ := Field.keeps_some.mp hkeeps
      exact hother entries rfl

theorem coerceStatements_checked_iff {given : Option Value} {statements : List String} :
    (∃ items, coerceStatements given = .ok items ∧ Draft.checkStatements items = .ok statements) ↔
      Field.alwaysImport.Keeps given (.list (statements.map .text)) := by
  cases given with
  | none =>
    simp only [coerceStatements, Except.ok.injEq, exists_eq_left', Field.keeps_none, Settings.get,
      Value.list.injEq, Draft.checkStatements, List.map_nil, List.map_eq_nil_iff]
    exact eq_comm
  | some v =>
    simp only [Field.keeps_some, Field.Accepts, Field.coerce]
    unfold coerceStatements
    split
    · cases ‹some v = none›
    · rename_i items hv
      cases hv
      simp only [Except.ok.injEq, Value.list.injEq, exists_eq_left',
        Draft.checkStatements_eq_ok_iff]
    · rename_i v' hother hv
      cases hv
      refine iff_of_false (by simp [SettingsFault.failure]) ?_
      rintro ⟨⟨items, rfl, -⟩, -⟩
      exact hother items rfl

theorem coerceTimeout_some_eq_ok_iff {v w : Value} :
    coerceTimeout (some v) = .ok w ↔
      (∀ n, v = .int n → (Binary64.ofInt n).isFinite = true) ∧ w = Field.timeout.coerce v := by
  cases v with
  | int n =>
    simp only [coerceTimeout, Value.int.injEq, forall_eq', Field.coerce]
    split
    · rename_i hfinite
      simp [hfinite, eq_comm]
    · rename_i hinfinite
      exact iff_of_false nofun fun h => hinfinite h.1
  | bool b => simp [coerceTimeout, Field.coerce, eq_comm (b := w)]
  | _ => simp [coerceTimeout, Field.coerce, @eq_comm _ w]

theorem coerceTimeout_checked_iff {given : Option Value} {kept : Value} :
    (∃ w, coerceTimeout given = .ok w ∧ Draft.checkTimeout w = .ok kept) ↔
      Field.timeout.Keeps given kept := by
  simp only [Draft.checkTimeout_eq_ok_iff]
  cases given with
  | none =>
    have hpositive : (Binary64.ofInt 30).atMostZero = false := by decide +kernel
    simp only [coerceTimeout, Except.ok.injEq, exists_eq_left', Field.keeps_none, Settings.get,
      Draft.atMostZero?, hpositive, true_and]
  | some v =>
    simp only [coerceTimeout_some_eq_ok_iff, Field.keeps_some, Field.Accepts]
    constructor
    · rintro ⟨w, ⟨hfinite, rfl⟩, hpositive, rfl⟩
      exact ⟨⟨hfinite, hpositive⟩, rfl⟩
    · rintro ⟨⟨hfinite, hpositive⟩, rfl⟩
      exact ⟨_, ⟨hfinite, rfl⟩, hpositive, rfl⟩

/-- The check of an integer setting, for a field whose default is in range. -/
theorem checkInt_getD_iff_keeps {f : Field} {name : String} {low default n : Int}
    {fault : SettingsFault} {given : Option Value} (hcoerce : ∀ v, f.coerce v = v)
    (haccepts : ∀ v, f.Accepts v ↔ ∃ m, v = .int m ∧ low ≤ m)
    (hdefault : Settings.get {} f = .int default) (hlow : low ≤ default) :
    Draft.checkInt name low fault (given.getD (.int default)) = .ok n ↔
      f.Keeps given (.int n) := by
  rw [Draft.checkInt_eq_ok_iff]
  cases given with
  | none =>
    rw [Option.getD_none, Field.keeps_none, hdefault, Value.int.injEq, Value.int.injEq]
    constructor
    · rintro ⟨rfl, -⟩
      rfl
    · rintro rfl
      exact ⟨rfl, hlow⟩
  | some v =>
    rw [Option.getD_some, Field.keeps_some, haccepts, hcoerce]
    constructor
    · rintro ⟨rfl, hn⟩
      exact ⟨⟨n, rfl, hn⟩, rfl⟩
    · rintro ⟨⟨m, rfl, hm⟩, hn⟩
      cases hn
      exact ⟨rfl, hm⟩

/-- A switch holds what it is given. -/
theorem Field.IsSwitch.keeps_iff {f : Field} (h : f.IsSwitch) {given : Option Value}
    {kept : Value} : f.Keeps given kept ↔ kept = given.getD (Settings.get {} f) := by
  rcases h with rfl | rfl | rfl <;> cases given <;> simp [Field.Accepts, Field.coerce]

theorem checkLineLength_iff {given : Option Value} {n : Int} :
    Draft.checkInt "line_length" 1 .lineLengthLow (given.getD (.int 88)) = .ok n ↔
      Field.lineLength.Keeps given (.int n) :=
  checkInt_getD_iff_keeps (fun _ => rfl) (fun _ => Iff.rfl) rfl (by decide)

theorem checkLinesAfter_iff {given : Option Value} {n : Int} :
    Draft.checkInt "lines_after_imports" (-1) .linesAfterLow (given.getD (.int 2)) = .ok n ↔
      Field.linesAfter.Keeps given (.int n) :=
  checkInt_getD_iff_keeps (fun _ => rfl) (fun _ => Iff.rfl) rfl (by decide)

theorem checkDepthLimit_iff {given : Option Value} {n : Int} :
    Draft.checkInt "depth_limit" 0 .depthLimitLow (given.getD (.int 5)) = .ok n ↔
      Field.depthLimit.Keeps given (.int n) :=
  checkInt_getD_iff_keeps (fun _ => rfl) (fun _ => Iff.rfl) rfl (by decide)

/-! ## From sources to settings -/

namespace Draft

theorem ofSources_eq_ok_iff {sources : List Source} {d : Draft} :
    ofSources sources = .ok d ↔
      coerceAutoImports (Source.pick sources .autoImports) = .ok d.autoImports ∧
        coerceStatements (Source.pick sources .alwaysImport) = .ok d.alwaysImport ∧
        coerceTimeout (Source.pick sources .timeout) = .ok d.timeout ∧
        d.enabled = (Source.pick sources .enabled).getD (.bool true) ∧
        d.removeUnused = (Source.pick sources .removeUnused).getD (.bool false) ∧
        d.organize = (Source.pick sources .organize).getD (.bool true) ∧
        d.lineLength = (Source.pick sources .lineLength).getD (.int 88) ∧
        d.linesAfter = (Source.pick sources .linesAfter).getD (.int 2) ∧
        d.depthLimit = (Source.pick sources .depthLimit).getD (.int 5) := by
  simp only [ofSources, Except.bind_eq_ok_iff]
  constructor
  · rintro ⟨imports, himports, items, hitems, w, hw, hd⟩
    cases hd
    exact ⟨himports, hitems, hw, rfl, rfl, rfl, rfl, rfl, rfl⟩
  · rintro ⟨himports, hitems, hw, henabled, hremoveUnused, horganize, hline, hafter, hdepth⟩
    refine ⟨_, himports, _, hitems, _, hw, ?_⟩
    rw [← henabled, ← hremoveUnused, ← horganize, ← hline, ← hafter, ← hdepth]
    rfl

theorem settle_eq_ok_iff {d : Draft} {s : Settings} :
    d.settle = .ok s ↔
      checkAutoImports d.autoImports = .ok s.autoImports ∧
        checkStatements d.alwaysImport = .ok s.alwaysImport ∧
        checkInt "line_length" 1 .lineLengthLow d.lineLength = .ok s.lineLength ∧
        checkInt "lines_after_imports" (-1) .linesAfterLow d.linesAfter = .ok s.linesAfter ∧
        checkInt "depth_limit" 0 .depthLimitLow d.depthLimit = .ok (s.depthLimit : Int) ∧
        checkTimeout d.timeout = .ok s.timeout ∧
        s.enabled = d.enabled ∧ s.removeUnused = d.removeUnused ∧ s.organize = d.organize := by
  simp only [settle, Except.bind_eq_ok_iff]
  constructor
  · rintro ⟨imports, himports, statements, hstatements, lineLength, hline, linesAfter, hafter,
      depthLimit, hdepth, timeout, htimeout, hs⟩
    cases hs
    have hlow := (checkInt_eq_ok_iff.mp hdepth).2
    exact ⟨himports, hstatements, hline, hafter, by rwa [Int.toNat_of_nonneg hlow], htimeout, rfl,
      rfl, rfl⟩
  · rintro ⟨himports, hstatements, hline, hafter, hdepth, htimeout, henabled, hremoveUnused,
      horganize⟩
    refine ⟨_, himports, _, hstatements, _, hline, _, hafter, _, hdepth, _, htimeout, ?_⟩
    rw [← henabled, ← hremoveUnused, ← horganize]
    rfl

end Draft

/-- The settings of the values that the sources give, the first of them counting most. -/
def Settings.ofSources (sources : List Source) : Except Failure Settings :=
  Draft.ofSources sources >>= Draft.settle

/-- Sources give settings exactly when every field accepts its value, and the settings then hold
for every field what it coerces that value to. -/
theorem Settings.ofSources_eq_ok_iff {sources : List Source} {s : Settings} :
    Settings.ofSources sources = .ok s ↔
      ∀ f : Field, f.Keeps (Source.pick sources f) (s.get f) := by
  simp only [ofSources, Except.bind_eq_ok_iff, Draft.ofSources_eq_ok_iff, Draft.settle_eq_ok_iff]
  generalize Source.pick sources = given
  constructor
  · rintro ⟨d, ⟨himports, hitems, hw, henabled, hremoveUnused, horganize, hline, hafter, hdepth⟩,
      himports', hstatements, hline', hafter', hdepth', htimeout, henabled', hremoveUnused',
      horganize'⟩
    intro f
    cases f with
    | enabled => exact (Field.IsSwitch.keeps_iff (by decide)).mpr (henabled'.trans henabled)
    | autoImports =>
      obtain ⟨read, hread, hkeeps⟩ := coerceAutoImports_eq_ok_iff.mp himports
      rw [hread, Draft.checkAutoImports_map_some] at himports'
      cases himports'
      exact hkeeps
    | alwaysImport => exact coerceStatements_checked_iff.mp ⟨_, hitems, hstatements⟩
    | removeUnused =>
      exact (Field.IsSwitch.keeps_iff (by decide)).mpr (hremoveUnused'.trans hremoveUnused)
    | organize => exact (Field.IsSwitch.keeps_iff (by decide)).mpr (horganize'.trans horganize)
    | lineLength => exact checkLineLength_iff.mp (hline ▸ hline')
    | linesAfter => exact checkLinesAfter_iff.mp (hafter ▸ hafter')
    | depthLimit => exact checkDepthLimit_iff.mp (hdepth ▸ hdepth')
    | timeout => exact coerceTimeout_checked_iff.mp ⟨_, hw, htimeout⟩
  · intro h
    obtain ⟨items, hitems, hstatements⟩ := coerceStatements_checked_iff.mpr (h .alwaysImport)
    obtain ⟨w, hw, htimeout⟩ := coerceTimeout_checked_iff.mpr (h .timeout)
    refine ⟨⟨_, s.autoImports.map some, items, _, _, _, _, _, w⟩,
      ⟨coerceAutoImports_eq_ok_iff.mpr ⟨_, rfl, h .autoImports⟩, hitems, hw, rfl, rfl, rfl, rfl,
        rfl, rfl⟩,
      Draft.checkAutoImports_map_some _, hstatements, checkLineLength_iff.mpr (h .lineLength),
      checkLinesAfter_iff.mpr (h .linesAfter), checkDepthLimit_iff.mpr (h .depthLimit), htimeout,
      (Field.IsSwitch.keeps_iff (by decide)).mp (h .enabled),
      (Field.IsSwitch.keeps_iff (by decide)).mp (h .removeUnused),
      (Field.IsSwitch.keeps_iff (by decide)).mp (h .organize)⟩

/-! ## Values that make settings -/

theorem Field.Keeps.exists_imports {given : Option Value} {kept : Value}
    (h : Field.autoImports.Keeps given kept) :
    ∃ read : List AutoImport, kept = .list (read.map AutoImport.toValue) := by
  cases given with
  | none => exact ⟨_, keeps_none.mp h⟩
  | some v =>
    obtain ⟨⟨entries, rfl, hentries⟩, rfl⟩ := keeps_some.mp h
    obtain ⟨read, hread⟩ := AutoImport.exists_toValue_eq hentries
    exact ⟨read, congrArg Value.list hread.symm⟩

theorem Field.Keeps.exists_statements {given : Option Value} {kept : Value}
    (h : Field.alwaysImport.Keeps given kept) :
    ∃ statements : List String, kept = .list (statements.map .text) := by
  cases given with
  | none => exact ⟨_, keeps_none.mp h⟩
  | some v =>
    obtain ⟨⟨items, rfl, hitems⟩, rfl⟩ := keeps_some.mp h
    obtain ⟨statements, hstatements⟩ := Value.exists_text_eq hitems
    exact ⟨statements, congrArg Value.list hstatements.symm⟩

theorem Field.Keeps.exists_int {f : Field} {low default : Int} {given : Option Value} {kept : Value}
    (h : f.Keeps given kept) (hcoerce : ∀ v, f.coerce v = v)
    (haccepts : ∀ v, f.Accepts v ↔ ∃ m, v = .int m ∧ low ≤ m)
    (hdefault : Settings.get {} f = .int default) (hlow : low ≤ default) :
    ∃ n, kept = .int n ∧ low ≤ n := by
  cases given with
  | none => exact ⟨default, (keeps_none.mp h).trans hdefault, hlow⟩
  | some v =>
    obtain ⟨haccepted, rfl⟩ := keeps_some.mp h
    rw [hcoerce]
    exact (haccepts v).mp haccepted

/-- Values that all fields accept make settings. -/
theorem Settings.exists_keeps {given : Field → Option Value}
    (h : ∀ f v, given f = some v → f.Accepts v) :
    ∃ s : Settings, ∀ f : Field, f.Keeps (given f) (s.get f) := by
  let kept (f : Field) : Value := ((given f).map f.coerce).getD (Settings.get {} f)
  have hkeeps (f : Field) : f.Keeps (given f) (kept f) := ⟨h f, rfl⟩
  obtain ⟨read, hread⟩ := (hkeeps .autoImports).exists_imports
  obtain ⟨statements, hstatements⟩ := (hkeeps .alwaysImport).exists_statements
  obtain ⟨lineLength, hline, -⟩ :=
    (hkeeps .lineLength).exists_int (fun _ => rfl) (fun _ => Iff.rfl) rfl (by decide)
  obtain ⟨linesAfter, hafter, -⟩ :=
    (hkeeps .linesAfter).exists_int (fun _ => rfl) (fun _ => Iff.rfl) rfl (by decide)
  obtain ⟨depthLimit, hdepth, hlow⟩ :=
    (hkeeps .depthLimit).exists_int (fun _ => rfl) (fun _ => Iff.rfl) rfl (by decide)
  let s : Settings :=
    { enabled := kept .enabled, autoImports := read, alwaysImport := statements
      removeUnused := kept .removeUnused, organize := kept .organize, lineLength := lineLength
      linesAfter := linesAfter, depthLimit := depthLimit.toNat, timeout := kept .timeout }
  have hget (f : Field) : s.get f = kept f := by
    cases f with
    | enabled | removeUnused | organize | timeout => rfl
    | autoImports => exact hread.symm
    | alwaysImport => exact hstatements.symm
    | lineLength => exact hline.symm
    | linesAfter => exact hafter.symm
    | depthLimit => exact (congrArg Value.int (Int.toNat_of_nonneg hlow)).trans hdepth.symm
  exact ⟨s, fun f => (hget f).symm ▸ hkeeps f⟩

end TidyImports
