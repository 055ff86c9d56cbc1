import Mathlib.Data.List.Forall2
import TidyImports.Proofs.Command.Inputs
import TidyImports.Proofs.Command.Rewriting

/-!
# Turns of the inputs

`format` takes its inputs in turn. A `Turn` is what became of one of them: its fate and, where its
file was written, the bytes that it got. `Command.Turns` reads the turns of a run off its steps,
that is off reading, formatting and writing, and does not look at the reports.

* `Command.formatAll_turns` — the reports of a run tell of its turns.
-/

namespace TidyImports

/-! ## Fates -/

/-- What became of the text of an input. -/
inductive Fate where
  | failed (failure : Failure)
  | formatted (before after : Text) (ending : Text.Ending)

namespace Fate

/-- The fate of a text, given what formatting it came to. -/
def ofFormatting (text : Text) (ending : Text.Ending) :
    Except Failure (Text × List FormatResult) → Fate
  | .ok (after, _) => .formatted text after ending
  | .error failure => .failed failure

def isFailed : Fate → Bool
  | .failed _ => true
  | .formatted .. => false

/-- Fixing did not settle within the depth limit. -/
def unsettled : Fate → Bool
  | .failed (.depthLimit ..) => true
  | _ => false

def changed : Fate → Bool
  | .failed _ => false
  | .formatted before after _ => before != after

end Fate

structure Turn where
  path : String
  fate : Fate
  /-- The bytes that were written to the file. -/
  written : Option Utf8.Bytes := none

namespace FormatOptions

/-- The same run, but for files being written. -/
def plain (o : FormatOptions) : FormatOptions := { o with check := false, diff := false }

/-- Whether the input is a file to be written back. -/
def rewrites (o : FormatOptions) (path : String) (before after : Text) : Bool :=
  o.writes && path != stdinPath && before != after

theorem rewrites_iff {o : FormatOptions} {path : String} {before after : Text} :
    o.rewrites path before after = true ↔
      o.writes = true ∧ path ≠ stdinPath ∧ before ≠ after := by
  rw [rewrites, Bool.and_eq_true, Bool.and_eq_true, bne_iff_ne, bne_iff_ne, and_assoc]

/-- What is shown of a formatted input: the text of standard input, or a difference. -/
def shown (o : FormatOptions) (path : String) (before after : Text) : Text :=
  if path = stdinPath && o.writes then after
  else if o.diff && before != after && !o.json then (unifiedDiff before after path).withoutCodes
  else []

end FormatOptions

/-! ## Reports -/

/-- The report of an input tells of its fate. -/
inductive FileReport.Tells (r : FileReport) : Fate → Prop
  | failed {failure : Failure} (hfailed : r.failed = true) (hchanged : r.changed = false)
      (hstatus : r.status = failure.exitCode) : Tells r (.failed failure)
  | formatted (hfailure : r.failure = none) : Tells r (.formatted r.before r.after r.ending)

namespace FileReport

variable {r : FileReport} {fate : Fate}

theorem Tells.failed_eq (h : r.Tells fate) : r.failed = fate.isFailed := by
  cases h with
  | failed hfailed => exact hfailed
  | formatted hfailure => rw [FileReport.failed, hfailure]; rfl

theorem Tells.changed_eq (h : r.Tells fate) : r.changed = fate.changed := by
  cases h with
  | failed _ hchanged => exact hchanged
  | formatted hfailure => rfl

/-- The report is one of this turn. -/
structure TellsTurn (r : FileReport) (turn : Turn) : Prop where
  path : r.path = turn.path
  tells : r.Tells turn.fate

theorem tells_fail (r : FileReport) (failure : Failure) :
    (r.fail failure).Tells (.failed failure) :=
  .failed rfl (bne_self_eq_false _) rfl

end FileReport

namespace Command

variable {ρ : Type}

/-! ## Steps -/

section

variable (launch : Launcher (World ρ)) (settings : Settings) (o : FormatOptions)

/-- What formatting an input comes to, given what reading it came to, and the session after it. -/
def fateOf (name : PathName) :
    Except Failure (Text × Text.Ending) → Session (World ρ) → Fate × Session (World ρ)
  | .error failure, s => (.failed failure, s)
  | .ok (text, ending), s =>
    let run := (formatText launch settings o text name).outcome s
    (.ofFormatting text ending run.1, run.2)

/-- Reading and formatting the input leads from the session `s` to this fate and the session `t`. -/
def Reaches (path : String) (s : Session (World ρ)) (fate : Fate) (t : Session (World ρ)) : Prop :=
  ∃ name r u, o.inputName s.world.disk path = .ok name ∧
    outcome (readInput path name) s = (.ok r, u) ∧ fateOf launch settings o name r u = (fate, t)

/-- The turn of an input leads from the session `s` to the session `u`: it was formatted, then
written or not. That a file could not be written is a failure as well. -/
inductive Takes (path : String) (s : Session (World ρ)) : Turn → Session (World ρ) → Prop
  | failed {failure : Failure} {t u : Session (World ρ)}
      (hreach : Reaches launch settings o path s (.failed failure) t) (hkept : Untouched t u) :
      Takes path s ⟨path, .failed failure, none⟩ u
  | kept {before after : Text} {ending : Text.Ending} {t u : Session (World ρ)}
      (hreach : Reaches launch settings o path s (.formatted before after ending) t)
      (hfile : o.rewrites path before after = false) (hkept : Untouched t u)
      (hshown : u.world.output = t.world.output ++ o.shown path before after) :
      Takes path s ⟨path, .formatted before after ending, none⟩ u
  | written {before after : Text} {ending : Text.Ending} {t u : Session (World ρ)}
      {name : PathName} {disk : Disk}
      (hreach : Reaches launch settings o path s (.formatted before after ending) t)
      (hfile : o.rewrites path before after = true)
      (hname : t.world.disk.resolve (.ofString path) = .ok name)
      (hwrite : writeSource t.world.disk name after ending t.world.guard = .ok disk)
      (hkept : Untouched { t with world := { t.world with disk := disk } } u) :
      Takes path s
        ⟨path, .formatted before after ending, some (Utf8.encode (Text.breakWith ending after))⟩ u
  | unwritten {before after : Text} {ending : Text.Ending} {failure : Failure}
      {t u : Session (World ρ)} {name : PathName}
      (hreach : Reaches launch settings o path s (.formatted before after ending) t)
      (hfile : o.rewrites path before after = true)
      (hname : t.world.disk.resolve (.ofString path) = .ok name)
      (hwrite : writeSource t.world.disk name after ending t.world.guard = .error failure)
      (hkept : Untouched t u) :
      Takes path s ⟨path, .failed failure, none⟩ u

/-- The report is one of a turn that the input takes from the session `s` to the session `u`. -/
def Told (path : String) (s : Session (World ρ)) (report : FileReport) (u : Session (World ρ)) :
    Prop :=
  ∃ turn : Turn, turn.path = path ∧ report.TellsTurn turn ∧ Takes launch settings o path s turn u

/-- The turns of a run from the session `s` to the session `u`, in which every input starts where
the command is when it is done with the one before. -/
inductive Turns : Session (World ρ) → List Turn → Session (World ρ) → Prop
  | nil (s : Session (World ρ)) : Turns s [] s
  | cons {turn : Turn} {turns : List Turn} {report : FileReport} {s t u : Session (World ρ)}
      (hturn : Takes launch settings o turn.path s turn t)
      (hstep : outcome (formatInput launch settings o turn.path >>= deliver o) s = (.ok report, t))
      (hrest : Turns t turns u) : Turns s (turn :: turns) u

end

/-! ## One input -/

theorem outcome_readInput (path : String) (name : PathName) (s : Session (World ρ)) :
    outcome (readInput path name) s =
      if path = stdinPath then
        (.ok (.ok (Text.unifyBreaks s.world.input, .lf)),
          { s with world := { s.world with input := [] } })
      else (.ok (readSource s.world.disk name s.world.guard), s) := by
  unfold readInput
  split <;> rfl

variable {launch : Launcher (World ρ)} {settings : Settings} {o : FormatOptions}

theorem fateOf_ok {name : PathName} {text : Text} (ending : Text.Ending) {s t : Session (World ρ)}
    {r : Except Failure (Text × List FormatResult)}
    (h : (formatText launch settings o text name).outcome s = (r, t)) :
    fateOf launch settings o name (.ok (text, ending)) s = (.ofFormatting text ending r, t) := by
  rw [fateOf, h]

theorem formatInput_reaches (path : String) (s : Session (World ρ)) :
    (formatInput launch settings o path).EndsFrom s
      (fun report t => report.path = path ∧
        ∃ fate, report.Tells fate ∧ Reaches launch settings o path s fate t)
      (fun _ => False) := by
  refine endsFrom_world_bind (endsFrom_bind (endsFrom_ofExcept _ s) (fun _ => id) ?_)
  rintro name t ⟨hname, rfl⟩
  obtain ⟨r, u, hread⟩ : ∃ r u, outcome (readInput path name) t = (.ok r, u) := by
    rw [outcome_readInput]
    split <;> exact ⟨_, _, rfl⟩
  have hreach : ∀ fate v, fateOf launch settings o name r u = (fate, v) →
      Reaches launch settings o path t fate v :=
    fun fate v hfate => ⟨name, r, u, hname, hread, hfate⟩
  refine endsFrom_bind_ok hread ?_
  cases r with
  | error failure =>
    exact endsFrom_pure ⟨rfl, _, FileReport.tells_fail _ failure, hreach _ _ rfl⟩
  | ok found =>
    obtain ⟨text, ending⟩ := found
    refine endsFrom_bind (endsFrom_attempt _ u) (fun _ => False.elim) ?_
    intro r v hrun
    cases r with
    | ok reached =>
      obtain ⟨after, results⟩ := reached
      exact endsFrom_pure ⟨rfl, _, .formatted rfl, hreach _ _ (fateOf_ok ending hrun)⟩
    | error failure =>
      simp only
      split
      · have hfate := hreach _ _ (fateOf_ok ending hrun)
        exact endsFrom_pure ⟨rfl, _, FileReport.tells_fail _ failure, hfate⟩
      · exact endsFrom_crash failure

/-! ## Its turn -/

/-- Not being able to write a file is no matter of the depth limit. -/
theorem exitCode_of_writeSource {disk : Disk} {name : PathName} {text : Text}
    {ending : Text.Ending} {guard : Guard} {failure : Failure}
    (h : writeSource disk name text ending guard = .error failure) : failure.exitCode = 1 := by
  unfold writeSource at h
  cases hw : disk.write name (Utf8.encode (Text.breakWith ending text)) guard with
  | ok disk' =>
    rw [hw] at h
    cases h
  | error fault =>
    rw [hw] at h
    cases h
    cases fault <;> rfl

theorem writeBack_takes {report : FileReport} {s t : Session (World ρ)}
    (hreach : Reaches launch settings o report.path s
      (.formatted report.before report.after report.ending) t)
    (hfailure : report.failure = none)
    (hfile : o.rewrites report.path report.before report.after = true) :
    (writeBack o report).EndsFrom t (Told launch settings o report.path s) (fun _ => False) := by
  unfold writeBack
  refine endsFrom_bind (endsFrom_world_bind (endsFrom_ofExcept _ t)) (fun _ => id) ?_
  rintro name v ⟨hname, rfl⟩
  refine endsFrom_world_bind ?_
  cases hwrite : writeSource v.world.disk name report.after report.ending v.world.guard with
  | ok disk =>
    refine endsFrom_changeWorld_bind ((quiet_before (quiet_say _) report _).mono ?_ fun _ => id)
    rintro _ u ⟨rfl, hu⟩
    exact ⟨_, rfl, ⟨rfl, .formatted hfailure⟩, .written hreach hfile hname hwrite hu⟩
  | error failure =>
    refine (quiet_before (quiet_complain _ _) _ v).mono ?_ fun _ => id
    rintro _ u ⟨rfl, hu⟩
    refine ⟨_, rfl, ⟨rfl, ?_⟩, .unwritten hreach hfile hname hwrite hu⟩
    exact .failed rfl (bne_self_eq_false _) (exitCode_of_writeSource hwrite).symm

theorem shown_of_file {report : FileReport} (h : ¬ (report.path = stdinPath && o.writes) = true) :
    o.shown report.path report.before report.after =
      if o.diff && report.changed && !o.json then
        (unifiedDiff report.before report.after report.path).withoutCodes
      else [] := if_neg h

/-- Text that is not shown for standard input is written where it has changed. -/
theorem rewrites_of_file {report : FileReport}
    (h : ¬ (report.path = stdinPath && o.writes) = true) :
    o.rewrites report.path report.before report.after = (o.writes && report.changed) := by
  unfold FormatOptions.rewrites FileReport.changed
  cases hwrites : o.writes with
  | false => rfl
  | true =>
    have hpath : report.path ≠ stdinPath := by simpa [hwrites] using h
    simp [hpath]

theorem diff_of_writes (h : o.writes = true) : o.diff = false := by
  rw [FormatOptions.writes, Bool.not_eq_true', Bool.or_eq_false_iff] at h
  exact h.2

/-- A formatted file is shown and written back as the options say. -/
theorem deliverFile_takes {report : FileReport} {s t : Session (World ρ)}
    (hreach : Reaches launch settings o report.path s
      (.formatted report.before report.after report.ending) t)
    (hfailure : report.failure = none) (hinput : ¬ (report.path = stdinPath && o.writes) = true) :
    (do
      if o.diff && report.changed && !o.json then
        writePlain (unifiedDiff report.before report.after report.path)
      if o.writes && report.changed then writeBack o report else pure report :
      Command ρ FileReport).EndsFrom t (Told launch settings o report.path s) (fun _ => False) := by
  rw [← rewrites_of_file hinput]
  cases hfile : o.rewrites report.path report.before report.after with
  | true =>
    -- Where files are written no difference is shown.
    have hdiff : o.diff = false := diff_of_writes (FormatOptions.rewrites_iff.mp hfile).1
    rw [if_neg (by simp [hdiff]), if_pos rfl]
    exact writeBack_takes hreach hfailure hfile
  | false =>
    have hkept : ∀ u, Untouched t u →
        u.world.output = t.world.output ++ o.shown report.path report.before report.after →
        (pure report : Command ρ FileReport).EndsFrom u (Told launch settings o report.path s)
          (fun _ => False) := by
      intro u hu hshown
      exact endsFrom_pure
        ⟨_, rfl, ⟨rfl, .formatted hfailure⟩, .kept hreach hfile hu hshown⟩
    rw [if_neg Bool.false_ne_true]
    split
    · rename_i hdiff
      rw [writePlain, write]
      refine endsFrom_changeWorld_bind ?_
      refine hkept _ ⟨⟨rfl, rfl⟩, rfl, rfl⟩ ?_
      rw [shown_of_file hinput, if_pos hdiff]
    · rename_i hdiff
      refine hkept t (Untouched.refl t) ?_
      rw [shown_of_file hinput, if_neg hdiff, List.append_nil]

theorem deliver_takes {path : String} {report : FileReport} {fate : Fate} {s t : Session (World ρ)}
    (hpath : report.path = path) (htells : report.Tells fate)
    (hreach : Reaches launch settings o path s fate t) :
    (deliver o report).EndsFrom t (Told launch settings o path s) (fun _ => False) := by
  subst hpath
  unfold deliver
  cases htells with
  | @failed failure hfailed hchanged hstatus =>
    obtain ⟨message, hmessage⟩ := Option.isSome_iff_exists.mp hfailed
    rw [hmessage]
    refine (quiet_before (quiet_complain _ _) report t).mono ?_ fun _ => id
    rintro _ u ⟨rfl, hu⟩
    exact ⟨_, rfl, ⟨rfl, .failed hfailed hchanged hstatus⟩, .failed hreach hu⟩
  | formatted hfailure =>
    rw [hfailure]
    simp only
    split
    · rename_i hinput
      have hshown : o.shown report.path report.before report.after = report.after := if_pos hinput
      rw [Bool.and_eq_true, decide_eq_true_iff] at hinput
      refine endsFrom_changeWorld_bind (endsFrom_pure ?_)
      refine ⟨_, rfl, ⟨rfl, .formatted hfailure⟩, .kept hreach ?_ ⟨⟨rfl, rfl⟩, rfl, rfl⟩ ?_⟩
      · simp [FormatOptions.rewrites, hinput.1]
      · rw [hshown]
    · rename_i hinput
      exact deliverFile_takes hreach hfailure hinput

/-! ## All inputs -/

/-- The reports are those of these turns. -/
def TellsOf (reports : List FileReport) (turns : List Turn) : Prop :=
  List.Forall₂ FileReport.TellsTurn reports turns

theorem formatAll_turns (paths : List String) (s : Session (World ρ)) :
    (formatAll launch settings o paths).EndsFrom s
      (fun reports t => ∃ turns, Turns launch settings o s turns t ∧
        turns.map (·.path) = paths ∧ TellsOf reports turns)
      (fun _ => False) := by
  induction paths generalizing s with
  | nil => exact endsFrom_pure ⟨[], .nil s, rfl, .nil⟩
  | cons path rest ih =>
    rw [formatAll, ← bind_assoc]
    have hone : (formatInput launch settings o path >>= deliver o).EndsFrom s
        (Told launch settings o path s) (fun _ => False) := by
      refine endsFrom_bind (formatInput_reaches path s) (fun _ => id) ?_
      rintro report t ⟨hpath, fate, htells, hreach⟩
      exact deliver_takes hpath htells hreach
    refine endsFrom_bind hone.and_outcome (fun _ => id) ?_
    rintro report u ⟨hstep, turn, rfl, htells, hturn⟩
    refine endsFrom_bind (ih u) (fun _ => id) ?_
    rintro reports v ⟨turns, hturns, rfl, hall⟩
    exact endsFrom_pure ⟨turn :: turns, .cons hturn hstep hturns, rfl, .cons htells hall⟩

end Command
end TidyImports
