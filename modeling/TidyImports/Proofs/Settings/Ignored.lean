import TidyImports.Proofs.Disk.Written
import TidyImports.Proofs.Settings.Refusal
import TidyImports.Proofs.Text.Utf8

/-!
# Configuration files that are no TOML documents

A configuration file should be ignored when it is no TOML document: settings are loaded as if it
were empty. Bad syntax is ignored so; bytes that are no text, and a number of too many digits, end
the loading instead.

* `Toml.IsDocument`, `Toml.BadSyntax`, `Toml.Unreadable` — the kinds of files;
* `Disk.config_of_found`, `Disk.config_overwritten` — what overwriting one configuration file does
  to the tables that are read;
* `Failure.AfterReading` — the failures that are not owed to the bytes of a configuration file;
* `loadSettings_ignores_iff` — when a file that is no document counts as empty.
-/

namespace TidyImports

open TidyImports.Except

/-! ## Kinds of files -/

namespace Toml

def IsDocument (bytes : Utf8.Bytes) : Prop :=
  ∃ text t, Utf8.decode bytes = .ok text ∧ parse text = .ok t

def BadSyntax (bytes : Utf8.Bytes) : Prop :=
  ∃ text, Utf8.decode bytes = .ok text ∧ parse text = .error .malformed

/-- The bytes are no text, or a number in the text has too many digits; and the failure that comes
of it. -/
inductive Unreadable (bytes : Utf8.Bytes) : Failure → Prop
  | undecodable {fault : Utf8.Fault} (h : Utf8.decode bytes = .error fault) :
    Unreadable bytes (.undecodable fault)
  | tooLong {text : Text} {digits : Nat} (h : Utf8.decode bytes = .ok text)
    (hparse : parse text = .error (.tooLong digits)) :
    Unreadable bytes (.invalid (.numeral (.tooLong digits)))

end Toml

/-- The table of a configuration file with these bytes. -/
def configTable (bytes : Utf8.Bytes) : Except Failure Table :=
  match Utf8.decode bytes with
  | .error fault => .error (.undecodable fault)
  | .ok text =>
    match Toml.parse text with
    | .ok t => .ok t
    | .error .malformed => .ok []
    | .error (.tooLong digits) => .error (.invalid (.numeral (.tooLong digits)))

theorem configTable_nil : configTable [] = .ok [] := by
  rfl

/-- Of three kinds of files that are no documents, one counts as empty. -/
theorem configTable_cases {bytes : Utf8.Bytes} (h : ¬ Toml.IsDocument bytes) :
    (Toml.BadSyntax bytes ∧ configTable bytes = .ok []) ∨
      ¬ Toml.BadSyntax bytes ∧ ∃ f, Toml.Unreadable bytes f ∧ configTable bytes = .error f := by
  unfold configTable
  cases hdecode : Utf8.decode bytes with
  | error fault =>
    refine Or.inr ⟨?_, _, .undecodable hdecode, rfl⟩
    rintro ⟨text, htext, -⟩
    cases hdecode.symm.trans htext
  | ok text =>
    cases hparse : Toml.parse text with
    | ok t => exact absurd ⟨text, t, hdecode, hparse⟩ h
    | error fault =>
      cases fault with
      | malformed => exact Or.inl ⟨⟨text, hdecode, hparse⟩, by simp [hparse]⟩
      | tooLong digits =>
        refine Or.inr ⟨?_, _, .tooLong hdecode hparse, by simp [hparse]⟩
        rintro ⟨text', htext', hbad⟩
        cases hdecode.symm.trans htext'
        cases hparse.symm.trans hbad

theorem Toml.Unreadable.unique {bytes : Utf8.Bytes} {f g : Failure} (hf : Toml.Unreadable bytes f)
    (hg : Toml.Unreadable bytes g) : f = g := by
  cases hf with
  | undecodable h =>
    cases hg with
    | undecodable h' =>
      cases h.symm.trans h'
      rfl
    | tooLong h' => cases h.symm.trans h'
  | tooLong h hparse =>
    cases hg with
    | undecodable h' => cases h.symm.trans h'
    | tooLong h' hparse' =>
      cases h.symm.trans h'
      cases hparse.symm.trans hparse'
      rfl

/-! ## Searching on disks of one shape -/

namespace Disk

section

variable {d d' : Disk} {filename : PathName}

theorem SameShape.find?_kind (h : SameShape d d') (p : PathName) :
    (d'.find? p).map (Option.map Node.isFolder) = (d.find? p).map (Option.map Node.isFolder) := by
  unfold find?
  rw [h.locate_eq]
  split
  · exact congrArg Except.ok (h.kind _)
  · rfl
  · rfl

/-- A search looks at the kind of what stands at a name only. -/
theorem findIn_cons (d : Disk) (filename : PathName) (folder : Place) (folders : List Place) :
    d.findIn filename (folder :: folders) =
      (d.find? (.below ⟨"/", folder⟩ filename)).map (Option.map Node.isFolder) >>= fun kind =>
        if kind = some false then .ok (some (.below ⟨"/", folder⟩ filename))
        else d.findIn filename folders := by
  rcases find?_cases d (PathName.below ⟨"/", folder⟩ filename) with hfile | hlacks | ⟨f, hf⟩
  · rw [findIn_cons_file hfile]
    obtain ⟨bytes, hbytes⟩ := hfile
    rw [hbytes]
    rfl
  · rw [findIn_cons_lacks hlacks]
    rcases hlacks with hnone | hfolder
    · rw [hnone]
      rfl
    · rw [hfolder]
      rfl
  · rw [findIn_cons_error hf, hf]
    rfl

theorem SameShape.findIn_eq (h : SameShape d d') (folders : List Place) :
    d'.findIn filename folders = d.findIn filename folders := by
  induction folders with
  | nil => rfl
  | cons folder rest ih => rw [findIn_cons, findIn_cons, h.find?_kind, ih]

theorem SameShape.findUpward_eq (h : SameShape d d') (start : PathName) :
    d'.findUpward filename start = d.findUpward filename start := by
  unfold findUpward
  rw [h.resolve_eq]
  exact bind_congr fun name => h.findIn_eq _

end

/-! ## One configuration file overwritten -/

section

variable {d d' : Disk} {filename : String} {start p : PathName} {bytes : Utf8.Bytes}

/-- A file name of one part, which is no double dot. -/
structure Plain (filename : String) : Prop where
  parts : PathName.ofString filename = ⟨"", [filename]⟩
  up : filename ≠ ".."

theorem file_of_findUpward (hname : Plain filename)
    (h : d.findUpward (.ofString filename) start = .ok (some p)) :
    p.parts.getLast? = some filename ∧ ∃ bytes, FileAt d p bytes := by
  obtain ⟨name, hresolve, hfind⟩ := bind_eq_ok_iff.mp h
  obtain ⟨folder, hfolder, rfl, ⟨bytes, hbytes⟩, -⟩ := findIn_upward_eq_some_iff.mp hfind
  rw [hname.parts] at hbytes ⊢
  have hresolved : Resolved (PathName.below ⟨"/", folder⟩ ⟨"", [filename]⟩) := by
    refine ⟨rfl, fun hmem => ?_⟩
    rcases List.mem_append.mp hmem with hmem | hmem
    · exact (resolved_of_resolve hresolve).parts (hfolder.subset hmem)
    · exact hname.up (List.mem_singleton.mp hmem).symm
  exact ⟨List.getLast?_concat, bytes, fileAt_of_find? hresolved hbytes⟩

theorem FileAt.readConfig_eq (h : FileAt d p bytes) : readConfig d p = configTable bytes := by
  unfold readConfig configTable
  cases hdecode : Utf8.decode bytes with
  | error fault =>
    have hraw : d.readRaw p = .error (.decode fault) := by
      rw [h.readRaw_eq rfl, hdecode]
      rfl
    rw [hraw]
  | ok text =>
    have hraw : d.readRaw p = .ok text := by
      rw [h.readRaw_eq rfl, hdecode]
      rfl
    rw [hraw]
    dsimp only
    cases Toml.parse text with
    | ok t => rfl
    | error fault => cases fault <;> rfl

theorem config_of_found (hat : FileAt d p bytes)
    (h : d.findUpward (.ofString filename) start = .ok (some p)) :
    d.config filename start = configTable bytes := by
  unfold config
  rw [h]
  exact hat.readConfig_eq

/-- Overwriting one configuration file leaves those of another name alone. -/
theorem config_overwritten {new : Utf8.Bytes} (hname : Plain filename) (hat : FileAt d p bytes)
    (hover : Overwritten p.parts new d d') (hlast : p.parts.getLast? ≠ some filename) :
    d'.config filename start = d.config filename start := by
  have hshape := hover.sameShape hat.node
  unfold config
  rw [hshape.findUpward_eq]
  cases hfound : d.findUpward (.ofString filename) start with
  | error f => rfl
  | ok found =>
    cases found with
    | none => rfl
    | some q =>
      obtain ⟨hq, content, hcontent⟩ := file_of_findUpward hname hfound
      have hne : q.parts ≠ p.parts := by
        intro heq
        exact hlast (heq ▸ hq)
      have hkept := hcontent.sameShape hshape (hover.node_of_ne hne)
      exact hkept.readConfig_eq.trans hcontent.readConfig_eq.symm

/-- The tables of two configuration files, one of which is found and then emptied. -/
theorem config_emptied {other : String} (hname : Plain filename) (hother : Plain other)
    (hne : filename ≠ other) (hread : d.read p = .ok bytes)
    (hfound : d.findUpward (.ofString filename) start = .ok (some p))
    (hwrite : d.write p [] = .ok d') :
    d.config filename start = configTable bytes ∧ d'.config filename start = .ok [] ∧
      d'.config other start = d.config other start := by
  obtain ⟨hlast, content, hat⟩ := file_of_findUpward hname hfound
  obtain rfl : content = bytes := Except.ok.inj ((hat.read_eq rfl).symm.trans hread)
  obtain rfl : d.put p.parts (.file []) = d' :=
    Except.ok.inj ((hat.write_eq rfl []).symm.trans hwrite)
  have hover := overwritten_put (d := d) (ne_nil_of_file hat.node) []
  have hshape := hover.sameShape hat.node
  have hat' : FileAt (d.put p.parts (.file [])) p [] :=
    ⟨(hshape.locate_eq p).trans hat.located, hover.node_self⟩
  refine ⟨config_of_found hat hfound, ?_, config_overwritten hother hat hover ?_⟩
  · rw [config_of_found hat' ((hshape.findUpward_eq start).trans hfound), configTable_nil]
  · rw [hlast]
    simpa using hne

end

theorem plain_rcName : Plain rcName := ⟨by decide, by decide⟩

theorem plain_projectName : Plain projectName := ⟨by decide, by decide⟩

end Disk

/-! ## Failures after reading -/

/-- Neither bytes that are no text nor a number of too many digits. -/
def Failure.AfterReading : Failure → Prop
  | .undecodable _ | .invalid (.numeral _) => False
  | _ => True

theorem Toml.Unreadable.not_afterReading {bytes : Utf8.Bytes} {f : Failure}
    (h : Toml.Unreadable bytes f) : ¬ f.AfterReading := by
  cases h with
  | undecodable h => exact id
  | tooLong h hparse => exact id

/-- If it fails, then not for the bytes of a file. -/
abbrev ReadsNothing {α : Type} (x : Except Failure α) : Prop :=
  Except.FailsOnly Failure.AfterReading x

theorem afterReading_failure (fault : SettingsFault) : fault.failure.AfterReading := trivial

theorem readsNothing_ofValue (v : Value) : ReadsNothing (AutoImport.ofValue v) := by
  have hwritable (w : Value) : ReadsNothing w.checkWritable := by
    unfold Value.checkWritable
    split
    · exact failsOnly_error.mpr trivial
    · exact failsOnly_ok _
  unfold AutoImport.ofValue
  split
  · split
    · exact failsOnly_bind.mpr ⟨hwritable _, fun _ _ => failsOnly_failure afterReading_failure _⟩
    · exact failsOnly_bind.mpr ⟨hwritable _, fun _ _ => failsOnly_failure afterReading_failure _⟩
    · exact failsOnly_ok _
  · exact failsOnly_error.mpr trivial

theorem readsNothing_readAutoImports (entries : List Value) :
    ReadsNothing (readAutoImports entries) := by
  induction entries with
  | nil => exact failsOnly_ok _
  | cons e rest ih =>
    simp only [readAutoImports, failsOnly_bind, failsOnly_pure, implies_true, and_true]
    exact ⟨readsNothing_ofValue e, fun _ _ => ih⟩

theorem readsNothing_coerceAutoImports (given : Option Value) :
    ReadsNothing (coerceAutoImports given) := by
  unfold coerceAutoImports
  split
  · exact failsOnly_ok _
  · exact readsNothing_readAutoImports _
  · exact failsOnly_failure afterReading_failure _

theorem readsNothing_coerceTimeout (given : Option Value) :
    ReadsNothing (coerceTimeout given) := by
  unfold coerceTimeout
  split
  · exact failsOnly_ok _
  · split
    · exact failsOnly_ok _
    · dsimp only
      split
      · exact failsOnly_ok _
      · exact failsOnly_error.mpr trivial
    · exact failsOnly_ok _

theorem readsNothing_checkTimeout (v : Value) : ReadsNothing (Draft.checkTimeout v) := by
  unfold Draft.checkTimeout
  split
  · exact failsOnly_error.mpr trivial
  · exact failsOnly_failure afterReading_failure _
  · exact failsOnly_ok _

theorem readsNothing_ofSources (sources : List Source) :
    ReadsNothing (Settings.ofSources sources) := by
  refine failsOnly_bind.mpr ⟨?_, fun d _ => ?_⟩
  · simp only [Draft.ofSources, failsOnly_bind, readsNothing_coerceAutoImports,
      failsOnly_coerceStatements afterReading_failure, readsNothing_coerceTimeout, failsOnly_pure,
      implies_true, and_true]
  · simp only [Draft.settle, failsOnly_bind, Draft.failsOnly_checkAutoImports afterReading_failure,
      Draft.failsOnly_checkStatements afterReading_failure,
      Draft.failsOnly_checkInt afterReading_failure, readsNothing_checkTimeout, failsOnly_pure,
      implies_true, and_true]

/-- What is done once both configuration files have been read. -/
theorem readsNothing_rest (env : Environment) (sources : Source → List Source) :
    ReadsNothing (environmentSource env >>= fun environment =>
      Settings.ofSources (sources environment)) :=
  failsOnly_bind.mpr ⟨failsOnly_environmentSource afterReading_failure env,
    fun _ _ => readsNothing_ofSources _⟩

/-! ## Loading -/

section

variable {disk emptied : Disk} {env : Environment} {overrides : Table} {start p : PathName}
  {bytes : Utf8.Bytes}

theorem rcSource_emptied (hread : disk.read p = .ok bytes)
    (hfound : disk.findUpward (.ofString rcName) start = .ok (some p))
    (hwrite : disk.write p [] = .ok emptied) :
    rcSource disk start = (configTable bytes).map Source.ofTable ∧ rcSource emptied start = .ok [] ∧
      projectSource emptied start = projectSource disk start := by
  obtain ⟨hconfig, hconfig', hother⟩ :=
    Disk.config_emptied Disk.plain_rcName Disk.plain_projectName (by decide) hread hfound hwrite
  rw [rcSource_eq, rcSource_eq, projectSource_eq, projectSource_eq, hconfig, hconfig', hother]
  exact ⟨rfl, rfl, rfl⟩

theorem loadSettings_rc_iff (hread : disk.read p = .ok bytes) (hbytes : ¬ Toml.IsDocument bytes)
    (hfound : disk.findUpward (.ofString rcName) start = .ok (some p))
    (hwrite : disk.write p [] = .ok emptied) :
    loadSettings disk env overrides start = loadSettings emptied env overrides start ↔
      Toml.BadSyntax bytes ∨ ∃ f, projectSource disk start = .error f := by
  obtain ⟨hrc, hrc', hproject⟩ := rcSource_emptied hread hfound hwrite
  rw [loadSettings_eq, loadSettings_eq, hrc, hrc', hproject]
  rcases configTable_cases hbytes with ⟨hbad, htable⟩ | ⟨hbad, f, hf, htable⟩
  · rw [htable]
    exact iff_of_true rfl (Or.inl hbad)
  · rw [htable, or_iff_right hbad]
    refine bind_error_eq_bind_iff fun project heq => ?_
    exact hf.not_afterReading (readsNothing_rest _ _ _ heq)

theorem projectSource_emptied (hread : disk.read p = .ok bytes)
    (hfound : disk.findUpward (.ofString projectName) start = .ok (some p))
    (hwrite : disk.write p [] = .ok emptied) :
    (configTable bytes = .ok [] → projectSource disk start = .ok []) ∧
      (∀ f, configTable bytes = .error f → projectSource disk start = .error f) ∧
      projectSource emptied start = .ok [] ∧ rcSource emptied start = rcSource disk start := by
  obtain ⟨hconfig, hconfig', hother⟩ :=
    Disk.config_emptied Disk.plain_projectName Disk.plain_rcName (by decide) hread hfound hwrite
  rw [projectSource_eq, projectSource_eq, rcSource_eq, rcSource_eq, hconfig, hconfig', hother]
  refine ⟨fun htable => ?_, fun f htable => ?_, rfl, rfl⟩
  · rw [htable]
    rfl
  · rw [htable]
    rfl

theorem loadSettings_project_iff (hread : disk.read p = .ok bytes)
    (hbytes : ¬ Toml.IsDocument bytes)
    (hfound : disk.findUpward (.ofString projectName) start = .ok (some p))
    (hwrite : disk.write p [] = .ok emptied) :
    loadSettings disk env overrides start = loadSettings emptied env overrides start ↔
      Toml.BadSyntax bytes ∨ ∃ f, Toml.Unreadable bytes f ∧ rcSource disk start = .error f := by
  obtain ⟨hempty, hfails, hproject', hrc⟩ := projectSource_emptied hread hfound hwrite
  rw [loadSettings_eq, loadSettings_eq, hproject', hrc]
  rcases configTable_cases hbytes with ⟨hbad, htable⟩ | ⟨hbad, f, hf, htable⟩
  · rw [hempty htable]
    exact iff_of_true rfl (Or.inl hbad)
  · rw [hfails f htable, or_iff_right hbad]
    have hrest (rc : Source) : (environmentSource env >>= fun environment =>
        Settings.ofSources [Source.ofTable overrides, environment, rc, []]) ≠ .error f :=
      fun heq => hf.not_afterReading (readsNothing_rest _ _ _ heq)
    -- the project file is read first, so its failure counts unless the other file fails alike
    change Except.error f = (rcSource disk start >>= fun rc => environmentSource env >>=
      fun environment => Settings.ofSources [Source.ofTable overrides, environment, rc, []]) ↔ _
    constructor
    · intro heq
      rcases bind_eq_error_iff.mp heq.symm with hrcError | ⟨rc, -, hnext⟩
      · exact ⟨f, hf, hrcError⟩
      · exact absurd hnext (hrest rc)
    · rintro ⟨g, hg, hrcError⟩
      rw [hrcError, hf.unique hg]
      rfl

end

/-- Settings are loaded as if the bytes of a configuration file that are no document were none
exactly where they are bad syntax, or where the other file fails too: the project file comes first,
so that its failure hides one of `.importantrc`, and is not hidden by another. -/
theorem loadSettings_ignores_iff {disk : Disk} {env : Environment} {overrides : Table}
    {start p : PathName} {bytes : Utf8.Bytes} (hread : disk.read p = .ok bytes)
    (hbytes : ¬ Toml.IsDocument bytes) :
    ∃ emptied, disk.write p [] = .ok emptied ∧
      (disk.findUpward (.ofString rcName) start = .ok (some p) →
        (loadSettings disk env overrides start = loadSettings emptied env overrides start ↔
          Toml.BadSyntax bytes ∨ ∃ f, projectSource disk start = .error f)) ∧
      (disk.findUpward (.ofString projectName) start = .ok (some p) →
        (loadSettings disk env overrides start = loadSettings emptied env overrides start ↔
          Toml.BadSyntax bytes ∨
            ∃ f, Toml.Unreadable bytes f ∧ rcSource disk start = .error f)) := by
  obtain ⟨emptied, hwrite⟩ := Disk.exists_write hread (fun _ => rfl) []
  exact ⟨emptied, hwrite, fun hfound => loadSettings_rc_iff hread hbytes hfound hwrite,
    fun hfound => loadSettings_project_iff hread hbytes hfound hwrite⟩

/-- A file of that name and those bytes in the root of an otherwise empty disk. -/
def configDisk (name : String) (bytes : Utf8.Bytes) : Disk where
  entries := [([name], .file bytes)]
  current := []

/-- A byte that begins no character. -/
def strayByte : Utf8.Bytes := [0xFF]

theorem decode_strayByte : Utf8.decode strayByte = .error ⟨0, 1, 0xFF, .start⟩ := by
  rfl

theorem not_isDocument_strayByte : ¬ Toml.IsDocument strayByte := by
  rintro ⟨text, t, htext, -⟩
  cases decode_strayByte.symm.trans htext

theorem loadSettings_ignores_iff_strayByte :
    (configDisk rcName strayByte).read ⟨"/", [rcName]⟩ = .ok strayByte ∧
      ¬ Toml.IsDocument strayByte ∧
      ∃ emptied, (configDisk rcName strayByte).write ⟨"/", [rcName]⟩ [] = .ok emptied ∧
        ((configDisk rcName strayByte).findUpward (.ofString rcName) (.ofString ".") =
            .ok (some ⟨"/", [rcName]⟩) →
          (loadSettings (configDisk rcName strayByte) [] [] (.ofString ".") =
              loadSettings emptied [] [] (.ofString ".") ↔
            Toml.BadSyntax strayByte ∨
              ∃ f, projectSource (configDisk rcName strayByte) (.ofString ".") = .error f)) ∧
        ((configDisk rcName strayByte).findUpward (.ofString projectName) (.ofString ".") =
            .ok (some ⟨"/", [rcName]⟩) →
          (loadSettings (configDisk rcName strayByte) [] [] (.ofString ".") =
              loadSettings emptied [] [] (.ofString ".") ↔
            Toml.BadSyntax strayByte ∨
              ∃ f, Toml.Unreadable strayByte f ∧
                rcSource (configDisk rcName strayByte) (.ofString ".") = .error f)) :=
  ⟨rfl, not_isDocument_strayByte, loadSettings_ignores_iff rfl not_isDocument_strayByte⟩

/-- A stray byte in `.importantrc` ends the loading, and the defaults are loaded without it. -/
theorem loadSettings_undecodable :
    ¬ Toml.IsDocument strayByte ∧
      (∃ fault, loadSettings (configDisk rcName strayByte) [] [] (.ofString ".") =
        .error (.undecodable fault)) ∧
      ∃ s, loadSettings (configDisk rcName []) [] [] (.ofString ".") = .ok s := by
  refine ⟨not_isDocument_strayByte, ⟨⟨0, 1, 0xFF, .start⟩, by rfl⟩, ?_⟩
  exact ⟨_, rfl⟩

end TidyImports
