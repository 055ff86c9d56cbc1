import TidyImports.Proofs.Command.DryRun
import TidyImports.Proofs.Command.Files
import TidyImports.Proofs.Data.Json.RoundTrip

/-!
# The verdict of `format`

The exit status, the report and the files speak of the same turns.

* `Command.exitStatus_eq` — the exit status is the verdict on the turns;
* `Command.conclude_json`, `Command.conclude_check` — what is shown of them;
* `runCommand_verdict` — a command line.
-/

namespace TidyImports

namespace Command

/-! ## Exit status -/

/-- The exit status that is due: two if an input did not settle within the depth limit, or else one
if an input failed, or if changes were to be found and there are some. -/
def verdict (check : Bool) (turns : List Turn) : Nat :=
  if turns.any (·.fate.unsettled) then 2
  else if turns.any (·.fate.isFailed) || check && turns.any (·.fate.changed) then 1
  else 0

theorem exitCode_eq (failure : Failure) :
    failure.exitCode = if (Fate.failed failure).unsettled then 2 else 1 := by
  cases failure <;> rfl

theorem unsettled_of_isFailed {turns : List Turn} (h : turns.any (·.fate.isFailed) = false) :
    turns.any (·.fate.unsettled) = false := by
  rw [List.any_eq_false] at h ⊢
  intro turn hmem hunsettled
  cases hfate : turn.fate with
  | failed failure => exact h turn hmem (by rw [hfate]; rfl)
  | formatted before after ending =>
    rw [hfate] at hunsettled
    cases hunsettled

theorem isEmpty_filter {α : Type} (p : α → Bool) (l : List α) :
    (l.filter p).isEmpty = !l.any p := by
  rw [Bool.eq_iff_iff]
  simp

section

variable {reports : List FileReport} {turns : List Turn} (h : TellsOf reports turns)

include h

theorem TellsOf.any_failed : reports.any (·.failed) = turns.any (·.fate.isFailed) := by
  induction h with
  | nil => rfl
  | cons hone _ ih => rw [List.any_cons, List.any_cons, ih, hone.tells.failed_eq]

theorem TellsOf.any_changed : reports.any (·.changed) = turns.any (·.fate.changed) := by
  induction h with
  | nil => rfl
  | cons hone _ ih => rw [List.any_cons, List.any_cons, ih, hone.tells.changed_eq]

/-- The greatest status of a failure. -/
theorem TellsOf.greatest (n : Nat) :
    ((reports.filter (·.failed)).map (·.status)).foldl max n =
      max n (if turns.any (·.fate.unsettled) then 2
        else if turns.any (·.fate.isFailed) then 1 else 0) := by
  induction h generalizing n with
  | nil => simp
  | @cons r turn _ _ hone _ ih =>
    obtain ⟨path, fate, written⟩ := turn
    have htells := hone.tells
    cases htells with
    | @failed failure hfailed _ hstatus =>
      rw [List.filter_cons_of_pos hfailed, List.map_cons, List.foldl_cons, ih, hstatus,
        exitCode_eq, List.any_cons, List.any_cons, show (Fate.failed failure).isFailed = true from rfl,
        Bool.true_or, if_pos rfl]
      cases (Fate.failed failure).unsettled with
      | true =>
        rw [Bool.true_or, if_pos rfl]
        split_ifs <;> omega
      | false =>
        rw [Bool.false_or, if_neg Bool.false_ne_true]
        split_ifs <;> omega
    | formatted hfailure =>
      have hfailed : ¬ r.failed = true := by rw [FileReport.failed, hfailure]; simp
      rw [List.filter_cons_of_neg hfailed, ih, List.any_cons, List.any_cons]
      rfl

theorem exitStatus_eq (check : Bool) : exitStatus check reports = verdict check turns := by
  unfold exitStatus verdict
  simp only [isEmpty_filter, Bool.not_not, h.any_failed, h.any_changed, h.greatest]
  -- Without a failure there is none to be the greatest, and only the changes count.
  cases hfailed : turns.any (·.fate.isFailed) with
  | true => simp only [Bool.true_or, if_true, Nat.zero_max]
  | false =>
    rw [unsettled_of_isFailed hfailed]
    simp

end

/-! ## The report -/

variable {ρ : Type}

theorem write_of_writeJson {v : Value} (hkeyed : v.Keyed) (hwhole : v.Whole)
    {s t : Session (World ρ)} (h : outcome (writeJson v) s = (.ok (), t)) :
    ∃ report, t.world.output = s.world.output ++ report ∧ Json.parse report = .ok v := by
  obtain ⟨_, u, hcheck, hwrite⟩ := ok_of_bind h
  rw [outcome_ofExcept] at hcheck
  have hfree : v.obstacle? = none := by
    unfold Value.checkJson at hcheck
    split at hcheck
    · assumption
    · cases hcheck
    · cases hcheck
  cases congrArg Prod.snd hcheck
  cases congrArg Prod.snd hwrite
  refine ⟨_, rfl, Json.parse_write (Value.readable_of_obstacle? hkeyed hfree) hwhole _ 0 ?_⟩
  simp [Json.white]

theorem keyed_texts (names : List String) : (Value.list (names.map .text)).Keyed :=
  .list (List.forall_mem_map.mpr fun name _ => .text name)

theorem whole_texts (names : List String) : (Value.list (names.map .text)).Whole :=
  .list (List.forall_mem_map.mpr fun name _ => .text name)

theorem keyed_toValue (r : FileReport) : r.toValue.Keyed := by
  refine .table ?_ ?_
  · cases r.failure <;> simp [Table.keys]
  · cases r.failure <;>
      simp [Value.Keyed.text, Value.Keyed.bool, Value.Keyed.int, keyed_texts]

theorem whole_toValue (r : FileReport) : r.toValue.Whole := by
  refine .table ?_
  cases r.failure <;> simp [Value.Whole.text, Value.Whole.bool, Value.Whole.int, whole_texts]

theorem keyed_summary (check : Bool) (reports : List FileReport) :
    (summary check reports).Keyed := by
  refine .table ?_ ?_
  · simp [Table.keys]
  · have hfiles : (Value.list (reports.map FileReport.toValue)).Keyed :=
      .list (List.forall_mem_map.mpr fun r _ => keyed_toValue r)
    simp [Value.Keyed.bool, Value.Keyed.int, hfiles]

theorem whole_summary (check : Bool) (reports : List FileReport) :
    (summary check reports).Whole := by
  refine .table ?_
  have hfiles : (Value.list (reports.map FileReport.toValue)).Whole :=
    .list (List.forall_mem_map.mpr fun r _ => whole_toValue r)
  simp [Value.Whole.bool, Value.Whole.int, hfiles]

/-- The text is a report in JSON of these turns, which calls them a success exactly where the status
is zero. -/
def Reports (status : Nat) (turns : List Turn) (text : Text) : Prop :=
  ∃ (fields : Table) (files : List Table), Json.parse text = .ok (.table fields) ∧
    fields.get? "success" = some (.bool (status == 0)) ∧
    fields.get? "files" = some (.list (files.map .table)) ∧
    files.map (fun file => (file.get? "path", file.get? "changed")) =
      turns.map fun turn => (some (.text turn.path), some (.bool turn.fate.changed))

/-- The entries in the report of an input. -/
theorem exists_files {reports : List FileReport} {turns : List Turn} (h : TellsOf reports turns) :
    ∃ files : List Table, reports.map FileReport.toValue = files.map .table ∧
      files.map (fun file => (file.get? "path", file.get? "changed")) =
        turns.map fun turn => (some (.text turn.path), some (.bool turn.fate.changed)) := by
  induction h with
  | nil => exact ⟨[], rfl, rfl⟩
  | @cons r turn _ _ hone _ ih =>
    obtain ⟨files, hvalues, hfiles⟩ := ih
    obtain ⟨entries, hentries⟩ : ∃ entries, r.toValue = .table entries := ⟨_, rfl⟩
    refine ⟨entries :: files, ?_, ?_⟩
    · rw [List.map_cons, List.map_cons, hvalues, hentries]
    · rw [List.map_cons, List.map_cons, hfiles, ← hone.path, ← hone.tells.changed_eq]
      cases hentries
      rfl

theorem success_eq {reports : List FileReport} {turns : List Turn} (h : TellsOf reports turns)
    (check : Bool) :
    ((reports.filter (·.failed)).isEmpty && !(check && !(reports.filter (·.changed)).isEmpty)) =
      (verdict check turns == 0) := by
  rw [isEmpty_filter, isEmpty_filter, h.any_failed, h.any_changed, Bool.not_not, verdict]
  cases hfailed : turns.any (·.fate.isFailed) with
  | true =>
    rw [Bool.true_or, if_pos rfl]
    split_ifs <;> rfl
  | false =>
    rw [unsettled_of_isFailed hfailed]
    cases check && turns.any (·.fate.changed) <;> rfl

theorem conclude_json {o : FormatOptions} (hjson : o.json = true) {reports : List FileReport}
    {turns : List Turn} (htells : TellsOf reports turns) {s t : Session (World ρ)}
    (h : outcome (conclude o reports) s = (.ok (), t)) :
    ∃ report, t.world.output = s.world.output ++ report ∧
      Reports (verdict o.check turns) turns report := by
  rw [conclude, if_pos hjson] at h
  obtain ⟨report, houtput, hparse⟩ :=
    write_of_writeJson (keyed_summary o.check reports) (whole_summary o.check reports) h
  obtain ⟨files, hvalues, hfiles⟩ := exists_files htells
  refine ⟨report, houtput, _, files, hparse, ?_, ?_, hfiles⟩
  · rw [← success_eq htells]
    rfl
  · rw [← hvalues]
    rfl

/-! ## Messages -/

/-- The lines that are shown for these inputs. -/
def WouldFix (paths : List String) (lines : List Text) : Prop :=
  List.Forall₂ (fun path line => printedLines ("Would fix imports in " ++ path).toList = .ok line)
    paths lines

theorem write_of_say {markup : String} {s t : Session (World ρ)}
    (h : outcome (say markup) s = (.ok (), t)) :
    ∃ line, printedLines markup.toList = .ok line ∧ t.world.output = s.world.output ++ line := by
  obtain ⟨line, u, hline, hwrite⟩ := ok_of_bind h
  rw [outcome_ofExcept] at hline
  cases hprinted : printedLines markup.toList with
  | error failure =>
    rw [hprinted] at hline
    cases hline
  | ok line' =>
    rw [hprinted] at hline
    cases hline
    cases congrArg Prod.snd hwrite
    exact ⟨line, rfl, rfl⟩

theorem sayWouldFix_writes {reports : List FileReport} {s t : Session (World ρ)}
    (h : outcome (sayWouldFix reports) s = (.ok (), t)) :
    ∃ lines, t.world.output = s.world.output ++ lines.flatten ∧
      WouldFix (reports.map (·.path)) lines := by
  induction reports generalizing s with
  | nil =>
    cases congrArg Prod.snd h
    exact ⟨[], (List.append_nil _).symm, .nil⟩
  | cons r rest ih =>
    obtain ⟨_, u, hsay, hrest⟩ := ok_of_bind h
    obtain ⟨line, hline, houtput⟩ := write_of_say hsay
    obtain ⟨lines, houtput', hlines⟩ := ih hrest
    refine ⟨line :: lines, ?_, .cons hline hlines⟩
    rw [houtput', houtput, List.flatten_cons, List.append_assoc]

theorem TellsOf.changed_paths {reports : List FileReport} {turns : List Turn}
    (h : TellsOf reports turns) :
    (reports.filter (·.changed)).map (·.path) =
      (turns.filter (·.fate.changed)).map (·.path) := by
  induction h with
  | nil => rfl
  | @cons r turn _ _ hone _ ih =>
    obtain ⟨hpath, htells⟩ := hone
    rw [List.filter_cons, List.filter_cons, htells.changed_eq]
    split
    · rw [List.map_cons, List.map_cons, ih, hpath]
    · exact ih

theorem conclude_check {o : FormatOptions} (hjson : o.json = false) (hcheck : o.check = true)
    (hquiet : o.quiet = false) {reports : List FileReport} {turns : List Turn}
    (htells : TellsOf reports turns) (hchanged : turns.any (·.fate.changed) = true)
    {s t : Session (World ρ)} (h : outcome (conclude o reports) s = (.ok (), t)) :
    ∃ lines, t.world.output = s.world.output ++ lines.flatten ∧
      WouldFix ((turns.filter (·.fate.changed)).map (·.path)) lines := by
  have hsome : (reports.filter (·.changed)).isEmpty = false := by
    rw [isEmpty_filter, htells.any_changed, hchanged]
    rfl
  have hwrites : o.writes = false := by rw [FormatOptions.writes, hcheck]; rfl
  have honly : onlyStdin o reports = false := by
    unfold onlyStdin
    split
    · rw [hwrites, Bool.and_false]
    · rfl
  simp only [conclude, hjson, hcheck, hquiet, hsome, honly] at h
  rw [← htells.changed_paths]
  exact sayWouldFix_writes h

/-! ## The command -/

/-- An exit after inputs that are all in order comes from what is reported of them. -/
theorem format_exits {launch : Launcher (World ρ)} {o : FormatOptions} {settings : Settings}
    {s u : Session (World ρ)} {status : Nat} (hsettings : o.settingsIn s.world = .ok settings)
    (henabled : settings.enabled.truthy = true)
    (husable : ∀ path ∈ o.paths, o.Usable s.world.disk path)
    (h : outcome (format launch o) s = (.error (.exit status), u)) :
    ∃ reports turns t, TellsOf reports turns ∧ Turns launch settings o s turns t ∧
      turns.map (·.path) = o.paths ∧ outcome (conclude o reports) t = (.ok (), u) ∧
      status = exitStatus o.check reports := by
  have hchecked := outcome_checkInputs husable
  rw [format, outcome_world_bind, outcome_bind, outcome_settings hsettings] at h
  simp only [henabled, Bool.not_true, Bool.false_eq_true, if_false] at h
  rw [outcome_bind, hchecked] at h
  obtain ⟨reports, t, -, ⟨turns, hturns, hpaths, htells⟩, h⟩ :=
    (formatAll_turns o.paths s).exit_of_bind h
  obtain ⟨_, v, hconclude, -, hstop⟩ := (quiet_conclude o reports t).exit_of_bind h
  cases hstop
  exact ⟨reports, turns, t, htells, hturns, hpaths, hconclude, rfl⟩

end Command

/-! ## A command line -/

variable {ρ : Type} {launch : Launcher (World ρ)} {words : List String} {w w' : World ρ}
  {o : FormatOptions} {settings : Settings} {status : Nat}

theorem runCommand_exits (hparse : Invocation.parse w.env words = .ok (.format o))
    (hrun : runCommand launch words w = (.exit status, w'))
    (hsettings : o.settingsIn w = .ok settings) (henabled : settings.enabled.truthy = true)
    (husable : ∀ path ∈ o.paths, o.Usable w.disk path) :
    ∃ reports turns t u, Command.TellsOf reports turns ∧
      Command.Turns launch settings o (.start w) turns t ∧ turns.map (·.path) = o.paths ∧
      Command.outcome (Command.conclude o reports) t = (.ok (), u) ∧
      status = exitStatus o.check reports ∧ w'.disk = t.world.disk ∧
      w'.output = u.world.output := by
  have hends : (Command.format launch o).EndsFrom (.start w) (fun _ _ => False) fun _ => True := by
    refine Command.format_ends launch o (fun _ _ _ => id) (fun _ _ _ => trivial) ?_
    intro settings t _ _ _ _
    exact (Command.formatAll_turns o.paths t).mono (fun _ _ _ => trivial) fun _ => id
  obtain ⟨u, -, hout, rfl⟩ := runCommand_outcome hparse hrun hends
  obtain ⟨reports, turns, t, htells, hturns, hpaths, hconclude, hstatus⟩ :=
    Command.format_exits (s := .start w) hsettings henabled husable hout
  have hkept := (Command.quiet_conclude o reports t).of_ok hconclude
  exact ⟨reports, turns, t, u, htells, hturns, hpaths, hconclude, hstatus, hkept.disk, rfl⟩

/-- **The verdict of `format`.** Where formatting is enabled and every input is in order, a command
line `format` that exits does so with the verdict on the turns of its inputs. The report in JSON is
one of these turns and calls them a success exactly where the status is zero; `--check` names the
changed inputs otherwise. If the inputs are different files and the linter looks at nothing but the
text that it is handed, then a run with `--check` or `--diff` finds changed exactly the files that
the same run without these rewrites, and they hold what that run wrote to them; a changed file that
the system does not open for writing fails there, and every other input comes to the same. -/
theorem runCommand_verdict (hparse : Invocation.parse w.env words = .ok (.format o))
    (hrun : runCommand launch words w = (.exit status, w'))
    (hsettings : o.settingsIn w = .ok settings) (henabled : settings.enabled.truthy = true)
    (husable : ∀ path ∈ o.paths, o.Usable w.disk path) :
    ∃ turns t, Command.Turns launch settings o (.start w) turns t ∧
      turns.map (·.path) = o.paths ∧ w'.disk = t.world.disk ∧
      status = Command.verdict o.check turns ∧
      (o.json = true → ∃ report, w'.output = t.world.output ++ report ∧
        Command.Reports status turns report) ∧
      (o.json = false → o.check = true → o.quiet = false →
        turns.any (·.fate.changed) = true → ∃ lines, w'.output = t.world.output ++ lines.flatten ∧
          Command.WouldFix ((turns.filter (·.fate.changed)).map (·.path)) lines) ∧
      (Command.Isolated launch → (Command.inputPlaces w.disk o.paths).Nodup →
        ∀ words' status' w'', Invocation.parse w.env words' = .ok (.format o.plain) →
          runCommand launch words' w = (.exit status', w'') →
          ∃ turns' t', Command.Turns launch settings o.plain (.start w) turns' t' ∧
            List.Forall₂ (fun turn turn' => Turn.Matches (w.refusal? turn.path) turn turn')
              turns turns' ∧
            ∀ turn ∈ turns', turn.path ≠ stdinPath → ∃ name before,
              w.disk.resolve (.ofString turn.path) = .ok name ∧
              w.disk.node? name.parts = some (.file before) ∧
              w''.disk.node? name.parts = some (.file (turn.written.getD before))) := by
  obtain ⟨reports, turns, t, u, htells, hturns, hpaths, hconclude, hstatus, hdisk, houtput⟩ :=
    runCommand_exits hparse hrun hsettings henabled husable
  rw [Command.exitStatus_eq htells] at hstatus
  refine ⟨turns, t, hturns, hpaths, hdisk, hstatus, ?_, ?_, ?_⟩
  · intro hjson
    rw [houtput, hstatus]
    exact Command.conclude_json hjson htells hconclude
  · intro hjson hcheck hquiet hchanged
    rw [houtput]
    exact Command.conclude_check hjson hcheck hquiet htells hchanged hconclude
  · intro hisolated hnodup words' status' w'' hparse' hrun'
    obtain ⟨-, turns', t', -, -, hturns', hpaths', -, -, hdisk', -⟩ :=
      runCommand_exits hparse' hrun' hsettings henabled husable
    have hsame : turns'.map (·.path) = turns.map (·.path) := hpaths'.trans hpaths.symm
    have hseparate : Command.Separate w.disk (turns.map (·.path)) := by
      rw [hpaths]
      exact ⟨fun path hmem hpath => Command.leadsToFile_of_usable hpath (husable path hmem), hnodup⟩
    refine ⟨turns', t', hturns', ?_, ?_⟩
    · exact hturns.agree hisolated hturns' hsame (.refl _ _) hseparate
    · rw [← hsame] at hseparate
      have hdone := hturns'.done hisolated hseparate
      intro turn hmem hpath
      obtain ⟨name, before, hname, hat⟩ :=
        hseparate.files turn.path (List.mem_map_of_mem hmem) hpath
      rw [hdisk']
      exact ⟨name, before, hname, hat.node, hdone.file turn hmem hpath name before hname hat⟩

/-- The command line `format --check --json` with these inputs. -/
def checkIn (paths : List String) : CommandEnd × World Unit :=
  runCommand (Command.answering erasing) ("format" :: "--check" :: "--json" :: paths) twoFiles

/-- Of two files one fails and the other would be rewritten; without the flag it is. -/
theorem runCommand_verdict_erasing :
    (checkIn ["b.py", "a.py"]).1 = .exit 1 ∧
      (eraseIn ["b.py", "a.py"]).2.disk.node? ["a.py"] = some (.file [13, 10]) ∧
      ∃ (b a : Turn) (report : Text), [b.path, a.path] = ["b.py", "a.py"] ∧
        Command.verdict true [b, a] = 1 ∧ Command.Reports 1 [b, a] report ∧
        a.fate.changed = true := by
  have hcheck : (checkIn ["b.py", "a.py"]).1 = .exit 1 := CommandEnd.eq_exit (by decide +kernel)
  have hplain : (eraseIn ["b.py", "a.py"]).1 = .exit 1 := CommandEnd.eq_exit (by decide +kernel)
  have husable : ∀ path ∈ ["b.py", "a.py"], FormatOptions.Usable
      { paths := ["b.py", "a.py"], check := true, json := true } twoFiles.disk path :=
    fun _ => usable_twoFiles [] rfl
  obtain ⟨settings, hsettings, henabled⟩ : ∃ settings,
      FormatOptions.settingsIn { paths := ["b.py", "a.py"], check := true, json := true } twoFiles =
        .ok settings ∧ settings.enabled.truthy = true :=
    ⟨_, by with_unfolding_all rfl, by with_unfolding_all rfl⟩
  have hwritten : (eraseIn ["b.py", "a.py"]).2.disk.node? ["a.py"] = some (.file [13, 10]) := by
    decide +kernel
  obtain ⟨turns, t, -, hpaths, -, hstatus, hjson, -, hboth⟩ :=
    runCommand_verdict (by with_unfolding_all rfl) (Prod.ext hcheck rfl) hsettings henabled husable
  obtain ⟨report, -, hreport⟩ := hjson rfl
  have hisolated : Command.Isolated (Command.answering erasing) :=
    ⟨fun arguments text l => (erasing arguments text, l), fun _ _ _ => rfl⟩
  obtain ⟨turns', t', -, hmatches, hfiles⟩ := hboth hisolated (by decide +kernel)
    ("format" :: "--json" :: ["b.py", "a.py"]) 1 _ (by with_unfolding_all rfl) (Prod.ext hplain rfl)
  obtain ⟨b, a, rfl⟩ : ∃ b a, turns = [b, a] :=
    List.length_eq_two.mp (by simpa using congrArg List.length hpaths)
  have hpath : a.path = "a.py" := by simpa using (List.cons.inj hpaths).2
  have hfile : a.path ≠ stdinPath := by rw [hpath]; decide
  refine ⟨hcheck, hwritten, b, a, report, hpaths, hstatus.symm, hreport, ?_⟩
  cases hmatches with
  | cons _ hmatches =>
    cases hmatches with
    | @cons _ a' _ _ ha _ =>
      refine (Bool.and_eq_true_iff.mp ((ha.written hfile).symm.trans ?_)).1
      obtain ⟨name, before, hname, hbefore, hafter⟩ := hfiles a' (by simp) (ha.path ▸ hfile)
      rw [ha.path, hpath] at hname
      cases hname.symm.trans (resolve_twoFiles [] (by simp))
      cases hbefore
      have hbytes := hafter.symm.trans hwritten
      cases hsome : a'.written with
      | some bytes => rfl
      | none =>
        rw [hsome] at hbytes
        cases hbytes

end TidyImports
