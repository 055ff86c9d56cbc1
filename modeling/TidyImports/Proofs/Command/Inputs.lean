import TidyImports.Proofs.Command.Steps
import TidyImports.Proofs.Disk

/-!
# Inputs of `format`

Which inputs can be formatted, and what the command does before any file is read.

* `Command.settings_ends` — settings are loaded or the command ends;
* `Command.checkInputs_ends` — every input is usable or the command ends;
* `Command.format_ends` — the ways for the command to end.
-/

namespace TidyImports

/-- A file is there, and its suffix is known. -/
structure Command.IsInput (disk : Disk) (name : PathName) : Prop where
  suffix : (Suffix.of? name).isSome = true
  file : ∃ bytes, disk.find? name = .ok (some (.file bytes))

namespace FormatOptions

/-- The settings of a run with these options. -/
def settingsIn {ρ : Type} (o : FormatOptions) (w : World ρ) : Except Failure Settings :=
  loadSettings w.disk w.env
    (Command.overrides o.depthLimit o.lineLength o.removeUnused o.organize) w.disk.currentName

/-- The input is a file that can be read as a source, and a notebook where a cell is asked for. For
standard input the name alone counts. -/
def Usable (o : FormatOptions) (disk : Disk) (path : String) : Prop :=
  ∃ name, o.inputName disk path = .ok name ∧
    (path ≠ stdinPath → Command.IsInput disk name) ∧
    (o.cell.isSome = true → Command.isNotebook name = true)

theorem usable_iff {o : FormatOptions} {disk : Disk} {path : String} {name : PathName}
    (hname : o.inputName disk path = .ok name) :
    o.Usable disk path ↔ (path ≠ stdinPath → Command.IsInput disk name) ∧
      (o.cell.isSome = true → Command.isNotebook name = true) := by
  constructor
  · rintro ⟨name', hname', h⟩
    cases hname.symm.trans hname'
    exact h
  · exact fun h => ⟨name, hname, h⟩

end FormatOptions

namespace Command

variable {ρ : Type}

/-! ## Settings -/

theorem settings_ends (overrides : Table) (start : PathName) (s : Session (World ρ)) :
    (settings overrides start : Command ρ Settings).EndsFrom s
      (fun found t => loadSettings s.world.disk s.world.env overrides start = .ok found ∧
        Untouched s t)
      (fun t => (∃ f, loadSettings s.world.disk s.world.env overrides start = .error f) ∧
        Untouched s t) := by
  refine endsFrom_world_bind ?_
  generalize loadSettings s.world.disk s.world.env overrides start = loaded
  cases loaded with
  | ok found => exact endsFrom_pure ⟨rfl, Untouched.refl s⟩
  | error f =>
    have hrefuse : ∀ message, (refuse message : Command ρ Settings).EndsFrom s
        (fun found t => Except.error f = .ok found ∧ Untouched s t)
        (fun t => (∃ f', Except.error (α := Settings) f = .error f') ∧ Untouched s t) :=
      fun message => (refuse_ends message s).mono (fun _ _ => False.elim) fun _ ht => ⟨⟨f, rfl⟩, ht⟩
    cases f with
    | invalid what => exact hrefuse _
    | undecodable fault => exact hrefuse _
    | _ => exact endsFrom_crash _

/-! ## Checks -/

theorem requireInput_ends (what : String) (name : PathName) (s : Session (World ρ)) :
    (requireInput what name : Command ρ Unit).EndsFrom s
      (fun _ t => IsInput s.world.disk name ∧ Untouched s t)
      (fun t => ¬ IsInput s.world.disk name ∧ Untouched s t) := by
  refine endsFrom_world_bind (endsFrom_bind (endsFrom_ofExcept _ s) (fun _ => False.elim) ?_)
  rintro found t ⟨hfind, rfl⟩
  have hrefuse : ∀ message, ¬ IsInput t.world.disk name →
      (refuse message : Command ρ Unit).EndsFrom t
        (fun _ u => IsInput t.world.disk name ∧ Untouched t u)
        (fun u => ¬ IsInput t.world.disk name ∧ Untouched t u) :=
    fun message hnot => (refuse_ends message t).mono (fun _ _ => False.elim) fun _ hu => ⟨hnot, hu⟩
  cases found with
  | none =>
    refine hrefuse _ fun h => ?_
    obtain ⟨bytes, hbytes⟩ := h.file
    cases hfind.symm.trans hbytes
  | some node =>
    cases node with
    | folder =>
      refine hrefuse _ fun h => ?_
      obtain ⟨bytes, hbytes⟩ := h.file
      cases hfind.symm.trans hbytes
    | file bytes =>
      unfold inputFault
      cases hsuffix : (Suffix.of? name).isSome with
      | false =>
        refine hrefuse _ fun h => ?_
        cases hsuffix.symm.trans h.suffix
      | true => exact endsFrom_pure ⟨⟨hsuffix, bytes, hfind⟩, Untouched.refl t⟩

/-- Asking for a cell of something else than a notebook ends the command. -/
theorem cellCheck_ends {α : Type} {o : FormatOptions} {name : PathName} (message : String)
    {next : Command ρ α} {s : Session (World ρ)} {ok : α → Session (World ρ) → Prop}
    {left : Session (World ρ) → Prop}
    (hnext : (o.cell.isSome = true → isNotebook name = true) → next.EndsFrom s ok left)
    (hleft : ¬ (o.cell.isSome = true → isNotebook name = true) → ∀ t, Untouched s t → left t) :
    (if o.cell.isSome && !isNotebook name then do
        complain o.verbose message
        stop 1
        next
      else next).EndsFrom s ok left := by
  split
  · rename_i hbad
    rw [Bool.and_eq_true, Bool.not_eq_true'] at hbad
    refine endsFrom_bind (quiet_complain _ _ s) (fun _ => False.elim) fun _ t ht => ?_
    refine endsFrom_stop_bind ?_
    refine hleft (fun h => ?_) t ht
    cases hbad.2.symm.trans (h hbad.1)
  · rename_i hgood
    refine hnext fun hcell => ?_
    rw [hcell, Bool.true_and, Bool.not_eq_true'] at hgood
    simpa using hgood

/-- The inputs are checked one after the other, and nothing is written meanwhile. -/
theorem checkInputs_ends (o : FormatOptions) (paths : List String) (s : Session (World ρ)) :
    (checkInputs o paths : Command ρ Unit).EndsFrom s
      (fun _ t => (∀ path ∈ paths, o.Usable s.world.disk path) ∧ Untouched s t)
      (fun t => (∃ path ∈ paths, ¬ o.Usable s.world.disk path) ∧ Untouched s t) := by
  induction paths generalizing s with
  | nil => exact endsFrom_pure ⟨by simp, Untouched.refl s⟩
  | cons path rest ih =>
    rw [checkInputs]
    refine endsFrom_world_bind (endsFrom_bind (endsFrom_ofExcept _ s) (fun _ => False.elim) ?_)
    rintro name t ⟨hname, rfl⟩
    -- What is left to do once the file itself was found to be in order.
    have hcell : ∀ u, Untouched t u → (path ≠ stdinPath → IsInput t.world.disk name) →
        (if o.cell.isSome && !isNotebook name then do
            complain o.verbose ("--cell can only be used with notebooks: " ++ path)
            stop 1
            checkInputs o rest
          else checkInputs o rest : Command ρ Unit).EndsFrom u
          (fun _ v => (∀ p ∈ path :: rest, o.Usable t.world.disk p) ∧ Untouched t v)
          (fun v => (∃ p ∈ path :: rest, ¬ o.Usable t.world.disk p) ∧ Untouched t v) := by
      intro u hu hfile
      refine cellCheck_ends _ (fun hnotebook => ?_) fun hnot v hv => ?_
      · have husable := (FormatOptions.usable_iff hname).mpr ⟨hfile, hnotebook⟩
        have hrest := ih u
        rw [hu.disk] at hrest
        refine hrest.mono ?_ ?_
        · exact fun _ v hv => ⟨List.forall_mem_cons.mpr ⟨husable, hv.1⟩, hu.trans hv.2⟩
        · exact fun v ⟨⟨p, hp, hnot⟩, hv⟩ => ⟨⟨p, List.mem_cons_of_mem path hp, hnot⟩, hu.trans hv⟩
      · refine ⟨⟨path, List.mem_cons_self, fun h => ?_⟩, hu.trans hv⟩
        exact hnot ((FormatOptions.usable_iff hname).mp h).2
    simp only
    split
    · rename_i hpath
      refine endsFrom_bind (requireInput_ends "File" name t) ?_ ?_
      · rintro u ⟨hnot, hu⟩
        refine ⟨⟨path, List.mem_cons_self, fun h => hnot ?_⟩, hu⟩
        exact ((FormatOptions.usable_iff hname).mp h).1 (by simpa using hpath)
      · exact fun _ u ⟨hfile, hu⟩ => hcell u hu fun _ => hfile
    · rename_i hpath
      exact hcell t (Untouched.refl t) fun hne => absurd (by simpa using hne) hpath

/-! ## Usable inputs -/

theorem outcome_settings {overrides : Table} {start : PathName} {s : Session (World ρ)}
    {found : Settings} (h : loadSettings s.world.disk s.world.env overrides start = .ok found) :
    outcome (settings overrides start : Command ρ Settings) s = (.ok found, s) := by
  rw [settings, outcome_world_bind, h]
  rfl

theorem outcome_requireInput (what : String) {name : PathName} {s : Session (World ρ)}
    (h : IsInput s.world.disk name) :
    outcome (requireInput what name : Command ρ Unit) s = (.ok (), s) := by
  obtain ⟨bytes, hfind⟩ := h.file
  rw [requireInput, outcome_world_bind, outcome_ofExcept_bind hfind, inputFault, if_pos h.suffix]
  rfl

/-- Inputs that are all in order pass the checks, which leave nothing behind. -/
theorem outcome_checkInputs {o : FormatOptions} {paths : List String} {s : Session (World ρ)}
    (h : ∀ path ∈ paths, o.Usable s.world.disk path) :
    outcome (checkInputs o paths : Command ρ Unit) s = (.ok (), s) := by
  induction paths with
  | nil => rfl
  | cons path rest ih =>
    obtain ⟨⟨name, hname, hfile, hcell⟩, hrest⟩ := List.forall_mem_cons.mp h
    rw [checkInputs, outcome_world_bind, outcome_ofExcept_bind hname]
    have hgood : (o.cell.isSome && !isNotebook name) = false := by
      cases hsome : o.cell.isSome with
      | false => rfl
      | true => rw [hcell hsome]; rfl
    simp only [hgood]
    split
    · rename_i hpath
      rw [outcome_bind, outcome_requireInput "File" (hfile (bne_iff_ne.mp hpath))]
      exact ih hrest
    · exact ih hrest

/-! ## Files that are named -/

/-- The places of the inputs, standard input left out. -/
def inputPlaces (disk : Disk) (paths : List String) : List Place :=
  paths.filterMap fun path =>
    if path = stdinPath then none
    else (disk.resolve (.ofString path)).toOption.map (·.parts)

/-- The input names a file. -/
def LeadsToFile (disk : Disk) (path : String) : Prop :=
  ∃ name bytes, disk.resolve (.ofString path) = .ok name ∧ disk.FileAt name bytes

theorem mem_inputPlaces {disk : Disk} {paths : List String} {path : String} {name : PathName}
    (hmem : path ∈ paths) (hpath : path ≠ stdinPath)
    (hname : disk.resolve (.ofString path) = .ok name) : name.parts ∈ inputPlaces disk paths := by
  refine List.mem_filterMap.mpr ⟨path, hmem, ?_⟩
  rw [if_neg hpath, hname]
  rfl

theorem inputPlaces_append (disk : Disk) (paths rest : List String) :
    inputPlaces disk (paths ++ rest) = inputPlaces disk paths ++ inputPlaces disk rest :=
  List.filterMap_append

theorem leadsToFile_of_usable {o : FormatOptions} {disk : Disk} {path : String}
    (hpath : path ≠ stdinPath) (h : o.Usable disk path) : LeadsToFile disk path := by
  obtain ⟨name, hname, hinput, -⟩ := h
  rw [FormatOptions.inputName, if_neg hpath] at hname
  obtain ⟨bytes, hfind⟩ := (hinput hpath).file
  exact ⟨name, bytes, hname, Disk.fileAt_of_find? (Disk.resolved_of_resolve hname) hfind⟩

section

variable {d d' : Disk} (h : Disk.SameShape d d')

include h

theorem inputPlaces_eq (paths : List String) : inputPlaces d' paths = inputPlaces d paths := by
  unfold inputPlaces
  simp only [h.resolve_eq]

theorem LeadsToFile.sameShape {path : String} (hfile : LeadsToFile d path) :
    LeadsToFile d' path := by
  obtain ⟨name, bytes, hname, hat⟩ := hfile
  obtain ⟨bytes', hbytes'⟩ := h.node?_file hat.node
  exact ⟨name, bytes', (h.resolve_eq _).trans hname, (h.locate_eq _).trans hat.located, hbytes'⟩

end

/-! ## The command -/

/-- The command ends before any file is read, or it goes through the inputs; what it shows in the
end does not matter. -/
theorem format_ends (launch : Launcher (World ρ)) (o : FormatOptions) {s : Session (World ρ)}
    {left : Session (World ρ) → Prop} (hshow : ∀ t u, Untouched t u → left t → left u)
    (hunread : ∀ t, Untouched s t →
      (∀ settings, o.settingsIn s.world = .ok settings → settings.enabled.truthy = true →
        ∃ path ∈ o.paths, ¬ o.Usable s.world.disk path) → left t)
    (hread : ∀ settings t, o.settingsIn s.world = .ok settings → settings.enabled.truthy = true →
      (∀ path ∈ o.paths, o.Usable s.world.disk path) → Untouched s t →
      (formatAll launch settings o o.paths).EndsFrom t (fun _ => left) (fun _ => False)) :
    (format launch o).EndsFrom s (fun _ _ => False) left := by
  unfold format
  refine endsFrom_world_bind ?_
  have hsettings := settings_ends (overrides o.depthLimit o.lineLength o.removeUnused o.organize)
    s.world.disk.currentName s
  apply endsFrom_bind hsettings
  · rintro t ⟨⟨f, hfail⟩, ht⟩
    refine hunread t ht fun settings hsettings => ?_
    cases hfail.symm.trans hsettings
  rintro settings t ⟨hsettings, ht⟩
  simp only
  split
  · rename_i hdisabled
    generalize Failure.disabled.message = message
    refine endsFrom_bind (quiet_complain _ message t) (fun _ => False.elim) fun _ u hu => ?_
    refine endsFrom_stop_bind ?_
    refine hunread u (ht.trans hu) fun settings' hsettings' henabled => ?_
    cases hsettings.symm.trans hsettings'
    rw [henabled] at hdisabled
    cases hdisabled
  · rename_i henabled
    rw [Bool.not_eq_true, Bool.not_eq_false'] at henabled
    refine endsFrom_bind (checkInputs_ends o o.paths t) ?_ ?_
    · rintro u ⟨hunusable, hu⟩
      rw [ht.disk] at hunusable
      exact hunread u (ht.trans hu) fun _ _ _ => hunusable
    rintro _ u ⟨husable, hu⟩
    rw [ht.disk] at husable
    have hrun := hread settings u hsettings henabled husable (ht.trans hu)
    refine endsFrom_bind hrun (fun _ => False.elim) fun reports v hv => ?_
    refine endsFrom_bind (quiet_conclude o reports v) (fun _ => False.elim) fun _ x hx => ?_
    exact endsFrom_stop (hshow v x hx hv)

end Command
end TidyImports
