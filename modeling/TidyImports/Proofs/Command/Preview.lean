import TidyImports.Proofs.Command.Notebooks
import TidyImports.Proofs.Command.Rewriting
import TidyImports.Proofs.Command.Turns
import TidyImports.Proofs.Format.Passes
import TidyImports.Proofs.Names.Unit

/-!
# What `undefined` shows and what `format` adds

`undefined` shows the statements that each undefined name of a cell would get, and `format` reports
the ones that it asked for. Both read the same notebook, and both analyse the masked text of the
cell and the code up to it; but `format` leaves a cell alone that is no code, while `undefined`
looks at the cell that it was asked for, whatever its kind.

* `formatDocument_imports` — a cell gets the statements of its own analysis, and no others;
* `formatCell_imports`, `formatText_cell`, `formatInput_formatted` — the way of `format` to that;
* `inspect_cell` — the way of `undefined`;
* `BothSucceed.sameSet_iff` — for which cells both come to the same statements.
-/

namespace TidyImports

/-! ## Statements as sets -/

/-- Each list holds the values of the other, whatever their order and repetitions. -/
def Value.SameSet (vs ws : List Value) : Prop := (∀ v ∈ vs, v.Held ws) ∧ ∀ w ∈ ws, w.Held vs

theorem Value.SameSet.text_mem_iff {vs ws : List Value} (h : SameSet vs ws) (s : String) :
    Value.text s ∈ vs ↔ Value.text s ∈ ws :=
  ⟨fun hs => held_text_iff.mp (h.1 _ hs), fun hs => held_text_iff.mp (h.2 _ hs)⟩

theorem Value.sameSet_nil_iff {vs : List Value} : SameSet vs [] ↔ vs = [] := by
  constructor
  · intro h
    refine List.eq_nil_iff_forall_not_mem.mpr fun v hv => ?_
    rcases h.1 v hv with hin | ⟨w, hw, -⟩
    · cases hin
    · cases hw
  · rintro rfl
    exact ⟨nofun, nofun⟩

/-- Names without a statement add none. -/
theorem sameSet_importsFor (names : List String) (map : ImportMap) :
    Value.SameSet (names.flatMap map.statements) (importsFor (names.filter map.has) map) := by
  constructor
  · intro v hv
    obtain ⟨name, hname, hv⟩ := List.mem_flatMap.mp hv
    exact held_importsFor (List.mem_filter.mpr ⟨hname, ImportMap.has_of_mem_statements hv⟩) hv
  · intro v hv
    obtain ⟨name, hname, hv⟩ := exists_of_mem_importsFor hv
    exact Or.inl (List.mem_flatMap.mpr ⟨name, (List.mem_filter.mp hname).1, hv⟩)

/-! ## Formatting a cell -/

section

variable {σ : Type} {linter : Linter σ} {snapshot : Snapshot} {s t : Session σ} {r : FormatResult}

theorem imports_resultOf (text : Text) (map : MaskMap) (imports : List Value) (c : Converged) :
    (resultOf text map imports c).imports = imports := by
  unfold resultOf
  simp only
  split
  · rfl
  · split <;> rfl

/-- Where no pass is run, there was nothing to ensure. -/
theorem runPasses_imports {text : Text} {request : Request} {required : List Value}
    (h : (runPasses linter snapshot text request required).outcome s = (.ok r, t)) :
    r.imports = required := by
  unfold runPasses at h
  cases hpasses : passes snapshot.settings request required with
  | nil =>
    rw [hpasses] at h
    cases h
    by_contra hne
    have hadd : Pass.add.config snapshot.settings required ∈
        passes snapshot.settings request required :=
      Pass.mem_passes_iff.mpr ⟨.add, Ne.symm hne, rfl⟩
    rw [hpasses] at hadd
    cases hadd
  | cons config rest =>
    rw [hpasses] at h
    obtain ⟨c, u, -, hresult⟩ := Run.outcome_bind_eq_ok_iff.mp h
    cases hresult
    exact imports_resultOf _ _ _ c

theorem formatDocument_imports {text : Text} {request : Request}
    (hcell : request.context.isCell = true)
    (h : (formatDocument linter snapshot text request).outcome s = (.ok r, t)) :
    ∃ u, (effectiveImports linter snapshot.imports (masked text) request.context).outcome s =
      (.ok r.imports, u) := by
  rw [formatDocument_eq] at h
  split at h
  · cases h
  obtain ⟨effective, u, hanalysis, hpasses⟩ := Run.outcome_bind_eq_ok_iff.mp h
  refine ⟨u, ?_⟩
  rw [runPasses_imports hpasses, requiredImports, hcell, Bool.true_or, if_pos rfl]
  exact hanalysis

/-- A cell that is formatted is one of the notebook. -/
theorem exists_cell_of_formatCell {notebook notebook' : Notebook} {i : Int} {full : Bool}
    (h : (formatCell linter snapshot notebook i full).outcome s = (.ok (notebook', r), t)) :
    ∃ (n : Nat) (c : Cell), i = n ∧ notebook.cells[n]? = some c := by
  obtain ⟨place, hcheck, -⟩ := Run.outcome_ofExcept_bind_eq_ok_iff.mp h
  rcases UnitContext.misplaced_or ⟨some notebook.cells, some i⟩ with hout | hnone | ⟨cells, n, hin, hn⟩
  · obtain ⟨fault, hfault⟩ := check_of_misplaced hout
    cases hcheck.symm.trans hfault
  · cases hnone
  · cases hin
    exact ⟨n, _, rfl, List.getElem?_eq_getElem hn⟩

theorem formatCell_imports {notebook notebook' : Notebook} {n : Nat} {c : Cell} {full : Bool}
    (hc : notebook.cells[n]? = some c)
    (h : (formatCell linter snapshot notebook n full).outcome s = (.ok (notebook', r), t)) :
    (c.isCode = false → r.imports = []) ∧
      (c.isCode = true → ∃ u, (effectiveImports linter snapshot.imports (masked c.text)
        ⟨some notebook.cells, some (n : Int)⟩).outcome s = (.ok r.imports, u)) := by
  constructor
  · intro hprose
    rw [formatCell_prose _ _ hc hprose] at h
    cases h
    rfl
  · intro hcode
    rw [formatCell_code _ _ hc hcode] at h
    obtain ⟨hresult, -⟩ := Prod.mk.inj h
    obtain ⟨result, hformat, hpair⟩ := Except.map_eq_ok_iff.mp hresult
    cases hpair
    exact formatDocument_imports rfl (Prod.fst_eq_iff.mp hformat)

end

/-! ## The two commands -/

/-- The statements of all rows. -/
def shownStatements (rows : List NameRow) : List Value := rows.flatMap (·.statements)

/-- The statements that the report of an input names. -/
def FileReport.addedStatements (report : FileReport) : List Value :=
  report.results.flatMap (·.imports)

theorem shownStatements_eq_nil_iff {rows : List NameRow} :
    shownStatements rows = [] ↔ ∀ row ∈ rows, row.statements = [] :=
  List.flatMap_eq_nil_iff

/-- Both commands read a notebook alike. -/
theorem Notebook.load_of_readSource {disk : Disk} {name : PathName} {guard : Guard} {text : Text}
    {ending : Text.Ending} (h : readSource disk name guard = .ok (text, ending)) :
    Notebook.load disk name guard = Notebook.ofText text (some name.toString) := by
  unfold readSource at h
  cases hraw : disk.readRaw name guard with
  | error fault =>
    rw [hraw] at h
    cases h
  | ok raw =>
    rw [hraw] at h
    cases h
    rw [Notebook.load, Disk.readText, hraw]
    rfl

namespace Command

variable {ρ : Type} {launch : Launcher (World ρ)} {settings : Settings} {o : FormatOptions}
  {path : String} {name : PathName} {i : Int}

theorem formatInput_formatted {s t : Session (World ρ)} {report : FileReport}
    (hpath : path ≠ stdinPath) (hname : s.world.disk.resolve (.ofString path) = .ok name)
    (h : outcome (formatInput launch settings o path) s = (.ok report, t))
    (hdone : report.failure = none) :
    ∃ text ending, readSource s.world.disk name s.world.guard = .ok (text, ending) ∧
      (formatText launch settings o text name).outcome s =
        (.ok (report.after, report.results), t) := by
  have hinput : o.inputName s.world.disk path = .ok name := by
    rw [FormatOptions.inputName, if_neg hpath, hname]
  have hread : outcome (readInput path name) s =
      (.ok (readSource s.world.disk name s.world.guard), s) := by
    rw [outcome_readInput, if_neg hpath]
  rw [formatInput, outcome_world_bind, outcome_ofExcept_bind hinput, outcome_bind_ok hread] at h
  cases hsource : readSource s.world.disk name s.world.guard with
  | error failure =>
    rw [hsource] at h
    cases h
    cases hdone
  | ok source =>
    obtain ⟨text, ending⟩ := source
    rw [hsource] at h
    simp only at h
    cases hrun : (formatText launch settings o text name).outcome s with
    | mk result u =>
      rw [outcome_attempt_bind hrun] at h
      cases result with
      | ok reached =>
        obtain ⟨after, results⟩ := reached
        cases h
        exact ⟨text, ending, rfl, hrun⟩
      | error failure =>
        simp only at h
        split at h
        · cases h
          cases hdone
        · cases h

theorem formatText_cell {s t : Session (World ρ)} {text after : Text} {results : List FormatResult}
    (hnotebook : isNotebook name = true) (hcell : o.cell = some i)
    (h : (formatText launch settings o text name).outcome s = (.ok (after, results), t)) :
    ∃ notebook map notebook' r, Notebook.ofText text (some name.toString) = .ok notebook ∧
      settings.importMap = .ok map ∧ results = [r] ∧
      (formatCell (linterFor launch settings cellName) ⟨settings, map⟩ notebook i
        (!o.narrow)).outcome s = (.ok (notebook', r), t) := by
  rw [formatText, if_pos hnotebook, formatCells, hcell] at h
  obtain ⟨notebook, hread, h⟩ := Run.outcome_ofExcept_bind_eq_ok_iff.mp h
  obtain ⟨snapshot, hsnapshot, h⟩ := Run.outcome_ofExcept_bind_eq_ok_iff.mp h
  obtain ⟨map, hmap, rfl⟩ := Except.map_eq_ok_iff.mp hsnapshot
  obtain ⟨⟨notebook', r⟩, w, hformat, h⟩ := Run.outcome_bind_eq_ok_iff.mp h
  cases h
  exact ⟨notebook, map, notebook', r, hread, hmap, rfl, hformat⟩

theorem inspect_cell {w : World ρ} {s t : Session (World ρ)} {rows : List NameRow}
    (hnotebook : isNotebook name = true)
    (h : (inspect launch w settings name (some i)).outcome s = (.ok rows, t)) :
    ∃ notebook map names u, Notebook.load w.disk name w.guard = .ok notebook ∧
      settings.importMap = .ok map ∧
      rows = names.map (fun shown => ⟨some i, shown, map.statements shown⟩) ∧
      ∀ (n : Nat) (c : Cell), i = n → notebook.cells[n]? = some c →
        (undefinedNames (linterFor launch settings cellName) (masked c.text)
          ⟨some notebook.cells, some i⟩).outcome s = (.ok names, u) := by
  obtain ⟨map, hmap, h⟩ := Run.outcome_ofExcept_bind_eq_ok_iff.mp h
  rw [if_pos hnotebook] at h
  obtain ⟨notebook, hload, h⟩ := Run.outcome_ofExcept_bind_eq_ok_iff.mp h
  obtain ⟨names, u, hnames, h⟩ := Run.outcome_bind_eq_ok_iff.mp h
  obtain ⟨others, x, hothers, h⟩ := Run.outcome_bind_eq_ok_iff.mp h
  cases hothers
  cases h
  refine ⟨notebook, map, names, t, hload, hmap, List.append_nil _, ?_⟩
  rintro n c rfl hc
  rw [if_neg (Int.not_lt.mpr (Int.natCast_nonneg n)), Int.toNat_natCast, hc] at hnames
  exact hnames

/-! ## Both commands at one cell -/

/-- The diagnostics of a call whose process answers so. -/
def answersOf (call : Call) (answer : List String → Text → Outcome) (text : Text) (config : Config) :
    Except Failure (List Diagnostic) := do
  let arguments ← call.arguments config
  let diagnostics ← Call.interpret config call.timeout (arguments.headD "") (answer arguments text)
  let _ ← config.label
  pure diagnostics

/-- A process whose answers hang on the command line and the text makes a linter that is a
function. -/
theorem linterFor_gives {answer : List String → Text → Outcome} (h : Answers launch answer)
    (settings : Settings) (filename : String) : (linterFor launch settings filename).Gives
      (answersOf ⟨linterProgram, filename, settings.timeout⟩ answer) := by
  intro text config
  refine Run.gives_bind (Run.gives_ofExcept _) fun arguments _ => ?_
  refine Run.gives_bind_ok (a := answer arguments text) (fun s => ?_) ?_
  · rw [Run.outcome_step, h]
  · refine Run.gives_bind (Run.gives_ofExcept _) fun diagnostics _ => ?_
    refine Run.gives_bind (Run.gives_ofExcept _) fun label _ => ?_
    exact Run.gives_bind_ok (Run.gives_notify _) (Run.gives_pure _)

theorem answers_answering (answer : List String → Text → Outcome) :
    Answers (answering answer) answer := fun _ _ _ => rfl

/-- `undefined` lists the names of the cell, and `format` formats it without a failure. -/
structure BothSucceed (launch : Launcher (World ρ)) (settings : Settings) (o : FormatOptions)
    (path : String) (i : Int) (s t : Session (World ρ)) (rows : List NameRow)
    (report : FileReport) : Prop where
  file : path ≠ stdinPath
  cell : o.cell = some i
  shown : ∃ name s', t.world.disk.resolve (.ofString path) = .ok name ∧ isNotebook name = true ∧
    (inspect launch t.world settings name (some i)).outcome s = (.ok rows, s')
  reported : ∃ t', outcome (formatInput launch settings o path) t = (.ok report, t')
  done : report.failure = none

/-- The statements of both commands for one cell. -/
theorem BothSucceed.statements {answer : Text → Config → Except Failure (List Diagnostic)}
    (hlinter : (linterFor launch settings cellName).Gives answer) {s t : Session (World ρ)}
    {rows : List NameRow} {report : FileReport}
    (h : BothSucceed launch settings o path i s t rows report) :
    ∃ (notebook : Notebook) (name : PathName) (n : Nat) (c : Cell),
      t.world.disk.resolve (.ofString path) = .ok name ∧
      Notebook.load t.world.disk name t.world.guard = .ok notebook ∧ i = n ∧
      notebook.cells[n]? = some c ∧
      (c.isCode = true → Value.SameSet (shownStatements rows) report.addedStatements) ∧
      (c.isCode = false → report.addedStatements = []) := by
  obtain ⟨name, s', hname, hnotebook, hrows⟩ := h.shown
  obtain ⟨t', hreport⟩ := h.reported
  obtain ⟨text, ending, hsource, hrun⟩ := formatInput_formatted h.file hname hreport h.done
  obtain ⟨notebook, map, notebook', r, hread, hmap, hresults, hformat⟩ :=
    formatText_cell hnotebook h.cell hrun
  obtain ⟨n, c, rfl, hc⟩ := exists_cell_of_formatCell hformat
  obtain ⟨hprose, hcode⟩ := formatCell_imports hc hformat
  obtain ⟨loaded, map', names, u, hload, hmap', hrowsOf, hnames⟩ := inspect_cell hnotebook hrows
  -- Both commands have read the same notebook and the same settings.
  obtain rfl : loaded = notebook := by
    rw [Notebook.load_of_readSource hsource, hread] at hload
    exact (Except.ok.inj hload).symm
  obtain rfl : map' = map := Except.ok.inj (hmap'.symm.trans hmap)
  have hadded : report.addedStatements = r.imports := by
    rw [FileReport.addedStatements, hresults, List.flatMap_singleton]
  refine ⟨loaded, name, n, c, hname, hload, rfl, hc, fun htrue => ?_, fun hfalse => ?_⟩
  · obtain ⟨v, himports⟩ := hcode htrue
    obtain ⟨-, -, hsymbols⟩ := effectiveSymbols_gives hlinter map' (hnames n c rfl hc)
    have hgives := effectiveImports_gives hsymbols t
    rw [himports] at hgives
    rw [hadded, Except.ok.inj hgives, shownStatements, hrowsOf, List.flatMap_map]
    exact sameSet_importsFor names map'
  · exact hadded.trans (hprose hfalse)

/-- **What is shown and what is added.** Where `undefined` lists the names of a cell and `format`
formats it, the cell is one of the notebook, and the statements that are shown and those that are
added are the same ones exactly when the cell is code or none is shown: to a cell that is no code
nothing is added. -/
theorem BothSucceed.sameSet_iff {answer : Text → Config → Except Failure (List Diagnostic)}
    (hlinter : (linterFor launch settings cellName).Gives answer) {s t : Session (World ρ)}
    {rows : List NameRow} {report : FileReport}
    (h : BothSucceed launch settings o path i s t rows report) :
    ∃ (notebook : Notebook) (name : PathName) (n : Nat) (c : Cell),
      t.world.disk.resolve (.ofString path) = .ok name ∧
      Notebook.load t.world.disk name t.world.guard = .ok notebook ∧ i = n ∧
      notebook.cells[n]? = some c ∧
      (Value.SameSet (shownStatements rows) report.addedStatements ↔
        c.isCode = true ∨ ∀ row ∈ rows, row.statements = []) ∧
      (c.isCode = true → ∀ st, .text st ∈ shownStatements rows ↔
        .text st ∈ report.addedStatements) ∧
      (c.isCode = false → report.addedStatements = []) := by
  obtain ⟨notebook, name, n, c, hname, hload, hi, hc, hcode, hprose⟩ := h.statements hlinter
  refine ⟨notebook, name, n, c, hname, hload, hi, hc, ?_,
    fun htrue => (hcode htrue).text_mem_iff, hprose⟩
  cases hkind : c.isCode with
  | true => exact iff_of_true (hcode hkind) (Or.inl rfl)
  | false =>
    rw [hprose hkind, Value.sameSet_nil_iff, shownStatements_eq_nil_iff]
    simp

/-- Finds the name `pd` undefined in every text, and proposes nothing. -/
def pandasMissing (arguments : List String) (_ : Text) : Outcome :=
  let found := if "lint.select = [\"F821\"]" ∈ arguments then [undefinedName "pd"] else []
  .finished 0 (Report.write found) []

/-- A disk with a notebook of two cells of the text `pd`, of prose and of code. -/
def proseAndCode : Session (World Unit) :=
  let cells := "\x7b\"cells\": [\x7b\"cell_type\": \"markdown\", \"source\": \"pd\"\x7d, " ++
    "\x7b\"cell_type\": \"code\", \"source\": \"pd\"\x7d]\x7d"
  .start {
    disk := ⟨[(["nb.ipynb"], .file (Utf8.encode cells.toList))], []⟩, env := [], input := []
    output := [], errors := [], linter := () }

/-- At the cell of that index both commands succeed, and `undefined` shows the statement. -/
def ShowsPandas (i : Int) (rows : List NameRow) (report : FileReport) : Prop :=
  BothSucceed (answering pandasMissing) {} { paths := ["nb.ipynb"], cell := some i } "nb.ipynb" i
      proseAndCode proseAndCode rows report ∧
    .text "import pandas as pd" ∈ shownStatements rows

def rowsAt (i : Int) : Except Failure (List NameRow) :=
  ((inspect (answering pandasMissing) proseAndCode.world {} ⟨"/", ["nb.ipynb"]⟩
    (some i)).outcome proseAndCode).1

def reportAt (i : Int) : Except Stop FileReport :=
  (outcome (formatInput (answering pandasMissing) {} { paths := ["nb.ipynb"], cell := some i }
    "nb.ipynb") proseAndCode).1

theorem resolve_proseAndCode :
    proseAndCode.world.disk.resolve (.ofString "nb.ipynb") = .ok ⟨"/", ["nb.ipynb"]⟩ := by
  with_unfolding_all rfl

theorem exists_showsPandas (i : Int) (empty : Bool)
    (hrows : (rowsAt i).toOption.map (fun rows =>
      (shownStatements rows).any (Value.text "import pandas as pd").same) = some true)
    (hreport : (reportAt i).toOption.map (fun report =>
      (report.failure, report.addedStatements.isEmpty)) = some (none, empty)) :
    ∃ rows report, ShowsPandas i rows report ∧ report.addedStatements.isEmpty = empty := by
  obtain ⟨rows, hrows, hshown⟩ := Except.toOption_map_eq_some_iff.mp hrows
  obtain ⟨report, hreport, hfailure⟩ := Except.toOption_map_eq_some_iff.mp hreport
  obtain ⟨hdone, hempty⟩ := Prod.mk.inj hfailure
  refine ⟨rows, report, ⟨⟨by decide, rfl, ?_, ⟨_, Prod.fst_eq_iff.mp hreport⟩, hdone⟩, ?_⟩, hempty⟩
  · exact ⟨_, _, resolve_proseAndCode, by decide +kernel, Prod.fst_eq_iff.mp hrows⟩
  · exact Value.any_same_text_iff.mp hshown

/-- What is shown for the cell of code is added. -/
theorem BothSucceed.sameSet_iff_code :
    ∃ rows report, ShowsPandas 1 rows report ∧
      Value.SameSet (shownStatements rows) report.addedStatements := by
  obtain ⟨rows, report, hshows, -⟩ :=
    exists_showsPandas 1 false (by decide +kernel) (by decide +kernel)
  obtain ⟨notebook, name, n, c, hname, hload, hi, hc, hiff, -⟩ :=
    hshows.1.sameSet_iff (linterFor_gives (answers_answering _) {} cellName)
  cases hname.symm.trans resolve_proseAndCode
  obtain rfl : n = 1 := by omega
  have hkinds : (Notebook.load proseAndCode.world.disk ⟨"/", ["nb.ipynb"]⟩
      proseAndCode.world.guard).toOption.map (fun notebook => notebook.cells.map Cell.isCode) =
        some [false, true] := by decide +kernel
  rw [hload] at hkinds
  have hcode := congrArg (fun kinds => kinds[1]?) (Option.some.inj hkinds)
  simp only [List.getElem?_map, hc] at hcode
  exact ⟨rows, report, hshows, hiff.mpr (Or.inl (Option.some.inj hcode))⟩

/-- What is shown for the cell of prose is not. -/
theorem BothSucceed.not_sameSet :
    ∃ answer, (linterFor (answering pandasMissing) {} cellName).Gives answer ∧
      ∃ rows report, ShowsPandas 0 rows report ∧
        ¬ Value.SameSet (shownStatements rows) report.addedStatements := by
  obtain ⟨rows, report, hshows, hempty⟩ :=
    exists_showsPandas 0 true (by decide +kernel) (by decide +kernel)
  refine ⟨_, linterFor_gives (answers_answering _) {} cellName, rows, report, hshows, fun hset => ?_⟩
  have hadded := (hset.text_mem_iff _).mp hshows.2
  rw [List.isEmpty_iff.mp hempty] at hadded
  cases hadded

end Command
end TidyImports
