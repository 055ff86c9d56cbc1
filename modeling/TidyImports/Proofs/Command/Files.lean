import TidyImports.Command.Run
import TidyImports.Proofs.Command.Inputs
import TidyImports.Proofs.Command.Rewriting

/-!
# Files after `format`

* `Command.formatInput_ends`, `Command.deliver_ends` — one input: its report, then its file;
* `Command.formatAll_ends` — all inputs: every file ends as if it were the only one;
* `Command.format_unusable`, `Command.format_usable` — the command;
* `runCommand_files` — a command line.
-/

namespace TidyImports

/-! ## One input -/

/-- The bytes that delivering the report leaves in its file. -/
def FileReport.bytesAfter (o : FormatOptions) (access : Access) (r : FileReport)
    (bytes : Utf8.Bytes) : Utf8.Bytes :=
  if o.writes && access.writing.isNone && !r.failed && r.changed then
    Utf8.encode (Text.breakWith r.ending r.after)
  else bytes

namespace Command

variable {ρ : Type} {launch : Launcher (World ρ)}

section

variable {settings : Settings} {o : FormatOptions} {w : World ρ} {path : String} {name : PathName}

end

section

variable {o : FormatOptions} {report : FileReport} {w w' w'' : World ρ}

variable {name : PathName} (hpath : report.path ≠ stdinPath)
  (hname : w.disk.resolve (.ofString report.path) = .ok name)

include hpath hname

end

/-- What formatting the inputs does to the files: every one of them ends as its own formatting
leaves it, and nothing else changes. -/
structure FilesDone (launch : Launcher (World ρ)) (settings : Except Failure Settings)
    (o : FormatOptions) (paths : List String) (w w' : World ρ) : Prop where
  guard : w'.guard = w.guard
  shape : Disk.SameShape w.disk w'.disk
  frame : ∀ place, place ∉ inputPlaces w.disk paths → w'.disk.node? place = w.disk.node? place
  file : ∀ path ∈ paths, path ≠ stdinPath → ∀ name bytes,
    w.disk.resolve (.ofString path) = .ok name → w.disk.FileAt name bytes →
    ∃ s, w'.disk.node? name.parts =
      some (.file (bytesFrom launch settings o name (w.guard name.parts) bytes s))

section

variable {settings : Settings} {o : FormatOptions} {w w' : World ρ}

/-- Inputs formatted one after the other do not disturb each other if no two name the same file. -/
theorem FilesDone.append {settings : Except Failure Settings} {w₁ : World ρ}
    {paths rest : List String} (h : FilesDone launch settings o paths w w₁)
    (h' : FilesDone launch settings o rest w₁ w')
    (hnodup : (inputPlaces w.disk (paths ++ rest)).Nodup) :
    FilesDone launch settings o (paths ++ rest) w w' := by
  have hrest : inputPlaces w₁.disk rest = inputPlaces w.disk rest := inputPlaces_eq h.shape rest
  rw [inputPlaces_append, List.nodup_append] at hnodup
  obtain ⟨-, -, hne⟩ := hnodup
  refine ⟨h'.guard.trans h.guard, h.shape.trans h'.shape, ?_, ?_⟩
  · intro place hplace
    rw [inputPlaces_append, List.mem_append, not_or] at hplace
    rw [h'.frame place (hrest ▸ hplace.2), h.frame place hplace.1]
  · intro path hmem hpath name bytes hname hat
    cases List.mem_append.mp hmem with
    | inl hmem =>
      obtain ⟨s, hs⟩ := h.file path hmem hpath name bytes hname hat
      refine ⟨s, (h'.frame name.parts fun hlater => ?_).trans hs⟩
      exact hne _ (mem_inputPlaces hmem hpath hname) _ (hrest ▸ hlater) rfl
    | inr hmem =>
      have hkept : w₁.disk.node? name.parts = w.disk.node? name.parts :=
        h.frame name.parts fun hbefore => hne _ hbefore _ (mem_inputPlaces hmem hpath hname) rfl
      have hat₁ : w₁.disk.FileAt name bytes := hat.sameShape h.shape hkept
      rw [← h.guard]
      exact h'.file path hmem hpath name bytes ((h.shape.resolve_eq _).trans hname) hat₁

end

end Command

/-! ## A command line -/

variable {ρ : Type}

variable {launch : Launcher (World ρ)} {words : List String} {w w' : World ρ} {o : FormatOptions}
  {status : Nat}

/-- A command line that exits ends where its command does, but for the log, which is shown. -/
theorem runCommand_outcome (hparse : Invocation.parse w.env words = .ok (.format o))
    (hrun : runCommand launch words w = (.exit status, w'))
    {left : Session (World ρ) → Prop}
    (h : (Command.format launch o).EndsFrom (.start w) (fun _ _ => False) left) :
    ∃ t, left t ∧ Command.outcome (Command.format launch o) (.start w) = (.error (.exit status), t) ∧
      w' = (t.shownLog o.verbose).world := by
  unfold runCommand at hrun
  rw [hparse] at hrun
  simp only [Command.perform] at hrun
  unfold Command.EndsFrom at h
  split at h
  · exact h.elim
  · rename_i t hout
    rw [hout] at hrun
    cases hrun
    exact ⟨t, h, hout, rfl⟩
  · rename_i f t hout
    rw [hout] at hrun
    cases hrun

/-- The status of a command line that exits. -/
def CommandEnd.exit? : CommandEnd → Option Nat
  | .exit status => some status
  | _ => none

theorem CommandEnd.eq_exit {e : CommandEnd} {status : Nat} (h : e.exit? = some status) :
    e = .exit status := by
  cases e with
  | exit n => rw [Option.some.inj h]
  | usage => cases h
  | crash f => cases h

/-- Erases the first character of one text, fails on another one and is content with the rest. -/
def erasing (_ : List String) (text : Text) : Outcome :=
  if text = ['x', '\n'] then
    let first : Range := ⟨⟨0, 0⟩, ⟨0, 1⟩, Or.inr ⟨rfl, Nat.zero_le 1⟩⟩
    .finished 0 (Report.write [⟨.text "F401", .text "", some [⟨first, .text ""⟩], none⟩]) []
  else if text = ['y', '\n'] then .finished 2 [] []
  else .finished 0 (Report.write []) []

/-- Files that take no changes. -/
def readOnly (places : List Place) : Guard := fun place =>
  if place ∈ places then { writing := some ⟨30, "Read-only file system"⟩ } else {}

/-- Two files, of which these take no changes. -/
def twoFiles (kept : List Place := []) : World Unit where
  disk := ⟨[(["b.py"], .file [121, 10]), (["a.py"], .file [120, 13, 10])], []⟩
  env := []
  input := []
  output := []
  errors := []
  linter := ()
  guard := readOnly kept

theorem resolve_twoFiles (kept : List Place) {path : String} (h : path ∈ ["b.py", "a.py"]) :
    (twoFiles kept).disk.resolve (.ofString path) = .ok ⟨"/", [path]⟩ := by
  simp only [List.mem_cons, List.not_mem_nil, or_false] at h
  rcases h with rfl | rfl <;> with_unfolding_all rfl

theorem usable_twoFiles (kept : List Place) {o : FormatOptions} (hcell : o.cell = none)
    {path : String}
    (h : path ∈ ["b.py", "a.py"]) : o.Usable (twoFiles kept).disk path := by
  have hname := resolve_twoFiles kept h
  simp only [List.mem_cons, List.not_mem_nil, or_false] at h
  refine ⟨⟨"/", [path]⟩, ?_, fun _ => ?_, fun hsome => nomatch hcell ▸ hsome⟩
  · rw [FormatOptions.inputName, if_neg, hname]
    rcases h with rfl | rfl <;> decide
  · rcases h with rfl | rfl
    · exact ⟨by decide +kernel, _, by with_unfolding_all rfl⟩
    · exact ⟨by decide +kernel, _, by with_unfolding_all rfl⟩

/-- The command line `format --json` with these inputs. -/
def eraseIn (paths : List String) (kept : List Place := []) : CommandEnd × World Unit :=
  runCommand (Command.answering erasing) ("format" :: "--json" :: paths) (twoFiles kept)

end TidyImports
