import Mathlib.Data.List.Infix
import TidyImports.Proofs.Data.Except
import TidyImports.Settings.Sources

/-!
# The nearest configuration files

A configuration file is looked for in the starting folder and in the folders above it, and the first
one that is found counts, whatever stands in it.

* `Disk.Nearest`, `Disk.findIn_upward_eq_some_iff` — the file that a search comes to;
* `Disk.Configured` — the table of the nearest file of a name, empty without such a file;
* `rcSource_eq_ok_iff`, `projectSource_eq_ok_iff` — what the two files give.
-/

namespace TidyImports

namespace Disk

/-! ## Folders above a place -/

theorem upward_eq (parts : Place) : upward parts = parts.inits.reverse := by
  induction parts with
  | nil => rfl
  | cons part rest ih => rw [upward, ih, List.inits_cons, List.reverse_cons, List.map_reverse]

/-- The folders come from the longest to the shortest. -/
theorem upward_pairwise (parts : Place) :
    (upward parts).Pairwise fun near far => far.length < near.length := by
  induction parts with
  | nil => exact List.pairwise_singleton _ _
  | cons part rest ih =>
    rw [upward, List.pairwise_append]
    refine ⟨?_, List.pairwise_singleton _ _, ?_⟩
    · rw [List.pairwise_map]
      exact ih.imp fun h => by simpa using h
    · intro near hnear far hfar
      obtain ⟨folder, -, rfl⟩ := List.mem_map.mp hnear
      rw [List.mem_singleton.mp hfar]
      exact Nat.succ_pos _

theorem mem_upward {parts folder : Place} : folder ∈ upward parts ↔ folder <+: parts := by
  rw [upward_eq, List.mem_reverse, List.mem_inits]

/-- The folders nearer than one of them are the longer ones. -/
theorem mem_before_iff {parts folder nearer : Place} {before after : List Place}
    (h : upward parts = before ++ folder :: after) :
    nearer ∈ before ↔ nearer <+: parts ∧ folder.length < nearer.length := by
  have hpairs := upward_pairwise parts
  rw [h, List.pairwise_append, List.pairwise_cons] at hpairs
  obtain ⟨-, ⟨hafter, -⟩, hbefore⟩ := hpairs
  rw [← mem_upward, h]
  constructor
  · intro hmem
    exact ⟨List.mem_append_left _ hmem, hbefore nearer hmem folder List.mem_cons_self⟩
  · rintro ⟨hmem, hlength⟩
    rcases List.mem_append.mp hmem with hmem | hmem
    · exact hmem
    · rcases List.mem_cons.mp hmem with rfl | hmem
      · exact absurd hlength (Nat.lt_irrefl _)
      · exact absurd hlength (Nat.lt_asymm (hafter nearer hmem))

/-! ## The nearest file -/

/-- A file stands at the name. -/
def HasFile (disk : Disk) (p : PathName) : Prop := ∃ bytes, disk.find? p = .ok (some (.file bytes))

/-- Nothing stands at the name, or a folder. -/
def LacksFile (disk : Disk) (p : PathName) : Prop :=
  disk.find? p = .ok none ∨ disk.find? p = .ok (some .folder)

/-- The file of that name in one of the folders above a place, while the folders nearer to the place
have none. -/
def Nearest (disk : Disk) (filename : PathName) (place : Place) (p : PathName) : Prop :=
  ∃ folder, folder <+: place ∧ p = PathName.below ⟨"/", folder⟩ filename ∧ disk.HasFile p ∧
    ∀ nearer, nearer <+: place → folder.length < nearer.length →
      disk.LacksFile (PathName.below ⟨"/", nearer⟩ filename)

/-- No folder above the place has a file of that name. -/
def NowhereAbove (disk : Disk) (filename : PathName) (place : Place) : Prop :=
  ∀ folder, folder <+: place → disk.LacksFile (PathName.below ⟨"/", folder⟩ filename)

section

variable {disk : Disk} {filename : PathName}

theorem findIn_cons_file {folder : Place} {folders : List Place}
    (h : disk.HasFile (PathName.below ⟨"/", folder⟩ filename)) :
    disk.findIn filename (folder :: folders) =
      .ok (some (PathName.below ⟨"/", folder⟩ filename)) := by
  obtain ⟨bytes, hbytes⟩ := h
  rw [findIn, hbytes]
  rfl

theorem findIn_cons_lacks {folder : Place} {folders : List Place}
    (h : disk.LacksFile (PathName.below ⟨"/", folder⟩ filename)) :
    disk.findIn filename (folder :: folders) = disk.findIn filename folders := by
  rcases h with h | h <;> rw [findIn, h] <;> rfl

theorem findIn_cons_error {folder : Place} {folders : List Place} {f : Failure}
    (h : disk.find? (PathName.below ⟨"/", folder⟩ filename) = .error f) :
    disk.findIn filename (folder :: folders) = .error f := by
  rw [findIn, h]
  rfl

/-- What stands at a name is a file, is none, or cannot be looked up. -/
theorem find?_cases (disk : Disk) (p : PathName) :
    disk.HasFile p ∨ disk.LacksFile p ∨ ∃ f, disk.find? p = .error f := by
  cases hfind : disk.find? p with
  | error f => exact Or.inr (Or.inr ⟨f, rfl⟩)
  | ok found =>
    cases found with
    | none => exact Or.inr (Or.inl (Or.inl hfind))
    | some node =>
      cases node with
      | folder => exact Or.inr (Or.inl (Or.inr hfind))
      | file bytes => exact Or.inl ⟨bytes, hfind⟩

theorem HasFile.not_lacks {p : PathName} (h : disk.HasFile p) : ¬ disk.LacksFile p := by
  obtain ⟨bytes, hbytes⟩ := h
  rintro (hnone | hfolder)
  · cases hbytes.symm.trans hnone
  · cases hbytes.symm.trans hfolder

theorem findIn_eq_some_iff {folders : List Place} {p : PathName} :
    disk.findIn filename folders = .ok (some p) ↔
      ∃ before folder after, folders = before ++ folder :: after ∧
        p = PathName.below ⟨"/", folder⟩ filename ∧ disk.HasFile p ∧
        ∀ nearer ∈ before, disk.LacksFile (PathName.below ⟨"/", nearer⟩ filename) := by
  constructor
  · intro h
    induction folders with
    | nil => cases h
    | cons folder folders ih =>
      rcases find?_cases disk (PathName.below ⟨"/", folder⟩ filename) with hfile | hlacks | ⟨f, hf⟩
      · rw [findIn_cons_file hfile] at h
        cases h
        exact ⟨[], folder, folders, rfl, rfl, hfile, by simp⟩
      · rw [findIn_cons_lacks hlacks] at h
        obtain ⟨before, found, after, rfl, hp, hfile, hbefore⟩ := ih h
        exact ⟨folder :: before, found, after, rfl, hp, hfile,
          List.forall_mem_cons.mpr ⟨hlacks, hbefore⟩⟩
      · rw [findIn_cons_error hf] at h
        cases h
  · rintro ⟨before, folder, after, rfl, rfl, hfile, hbefore⟩
    induction before with
    | nil => exact findIn_cons_file hfile
    | cons nearer before ih =>
      rw [List.forall_mem_cons] at hbefore
      rw [List.cons_append, findIn_cons_lacks hbefore.1]
      exact ih hbefore.2

theorem findIn_eq_none_iff {folders : List Place} :
    disk.findIn filename folders = .ok none ↔
      ∀ folder ∈ folders, disk.LacksFile (PathName.below ⟨"/", folder⟩ filename) := by
  induction folders with
  | nil => simp [findIn]
  | cons folder folders ih =>
    rw [List.forall_mem_cons]
    rcases find?_cases disk (PathName.below ⟨"/", folder⟩ filename) with hfile | hlacks | ⟨f, hf⟩
    · rw [findIn_cons_file hfile]
      exact iff_of_false nofun fun h => hfile.not_lacks h.1
    · rw [findIn_cons_lacks hlacks, ih, and_iff_right hlacks]
    · rw [findIn_cons_error hf]
      refine iff_of_false nofun fun h => ?_
      rcases h.1 with h | h
      · cases hf.symm.trans h
      · cases hf.symm.trans h

theorem findIn_upward_eq_some_iff {place : Place} {p : PathName} :
    disk.findIn filename (upward place) = .ok (some p) ↔ disk.Nearest filename place p := by
  rw [findIn_eq_some_iff]
  constructor
  · rintro ⟨before, folder, after, hsplit, hp, hfile, hbefore⟩
    have hfolder : folder ∈ upward place := by simp [hsplit]
    refine ⟨folder, mem_upward.mp hfolder, hp, hfile, fun nearer hnearer hlength => ?_⟩
    exact hbefore nearer ((mem_before_iff hsplit).mpr ⟨hnearer, hlength⟩)
  · rintro ⟨folder, hfolder, hp, hfile, hnearer⟩
    obtain ⟨before, after, hsplit⟩ := List.append_of_mem (mem_upward.mpr hfolder)
    refine ⟨before, folder, after, hsplit, hp, hfile, fun nearer hmem => ?_⟩
    obtain ⟨habove, hlength⟩ := (mem_before_iff hsplit).mp hmem
    exact hnearer nearer habove hlength

theorem findIn_upward_eq_none_iff {place : Place} :
    disk.findIn filename (upward place) = .ok none ↔ disk.NowhereAbove filename place := by
  simp only [findIn_eq_none_iff, mem_upward, NowhereAbove]

end

/-! ## Tables of files -/

/-- The table of the nearest file of that name above the starting point, empty without one. -/
def Configured (disk : Disk) (filename : String) (start : PathName) (t : Table) : Prop :=
  ∃ name, disk.resolve start = .ok name ∧
    ((∃ p, disk.Nearest (.ofString filename) name.parts p ∧ readConfig disk p = .ok t) ∨
      (disk.NowhereAbove (.ofString filename) name.parts ∧ t = []))

/-- The same, worked out. -/
def config (disk : Disk) (filename : String) (start : PathName) : Except Failure Table := do
  match ← disk.findUpward (.ofString filename) start with
  | none => .ok []
  | some p => readConfig disk p

theorem config_eq_ok_iff {disk : Disk} {filename : String} {start : PathName} {t : Table} :
    disk.config filename start = .ok t ↔ disk.Configured filename start t := by
  unfold config Configured findUpward
  simp only [Except.bind_eq_ok_iff]
  constructor
  · rintro ⟨found, ⟨name, hname, hfound⟩, ht⟩
    refine ⟨name, hname, ?_⟩
    cases found with
    | none => exact Or.inr ⟨findIn_upward_eq_none_iff.mp hfound, (Except.ok.inj ht).symm⟩
    | some p => exact Or.inl ⟨p, findIn_upward_eq_some_iff.mp hfound, ht⟩
  · rintro ⟨name, hname, ⟨p, hnearest, ht⟩ | ⟨hnowhere, rfl⟩⟩
    · exact ⟨some p, ⟨name, hname, findIn_upward_eq_some_iff.mpr hnearest⟩, ht⟩
    · exact ⟨none, ⟨name, hname, findIn_upward_eq_none_iff.mpr hnowhere⟩, rfl⟩

end Disk

/-! ## Sections -/

/-- The table under the key, empty where the key is missing. -/
def Table.Section (t : Table) (key : String) (u : Table) : Prop :=
  Table.get? t key = some (.table u) ∨ (Table.get? t key = none ∧ u = [])

theorem section?_eq_ok_iff {t u : Table} {key : String} : section? t key = .ok u ↔
    t.Section key u := by
  unfold section? Table.Section
  split
  · rename_i hnone
    simp [hnone, eq_comm]
  · rename_i w hw
    simp [hw]
  · rename_i v hkind hv
    simp only [hv, reduceCtorEq, Option.some.injEq, false_and, or_false, false_iff]
    exact hkind u

/-- The table `tool.important` of the nearest project file. -/
def Disk.OwnSection (disk : Disk) (start : PathName) (own : Table) : Prop :=
  ∃ project tool, disk.Configured projectName start project ∧ project.Section "tool" tool ∧
    tool.Section "important" own

theorem rcSource_eq (disk : Disk) (start : PathName) :
    rcSource disk start = (disk.config rcName start).map Source.ofTable := by
  unfold rcSource Disk.config
  cases disk.findUpward (.ofString rcName) start with
  | error f => rfl
  | ok found =>
    cases found with
    | none => rfl
    | some p => rfl

theorem rcSource_eq_ok_iff {disk : Disk} {start : PathName} {source : Source} :
    rcSource disk start = .ok source ↔
      ∃ rc, disk.Configured rcName start rc ∧ Source.ofTable rc = source := by
  simp only [rcSource_eq, Except.map_eq_ok_iff, Disk.config_eq_ok_iff]

theorem projectSource_eq (disk : Disk) (start : PathName) :
    projectSource disk start = (do
      let project ← disk.config projectName start
      let tool ← section? project "tool"
      let own ← section? tool "important"
      pure (Source.ofTable own)) := by
  unfold projectSource Disk.config
  cases disk.findUpward (.ofString projectName) start with
  | error f => rfl
  | ok found =>
    cases found with
    | none => rfl
    | some p => rfl

theorem projectSource_eq_ok_iff {disk : Disk} {start : PathName} {source : Source} :
    projectSource disk start = .ok source ↔
      ∃ own, disk.OwnSection start own ∧ Source.ofTable own = source := by
  simp only [projectSource_eq, Except.bind_eq_ok_iff, Disk.config_eq_ok_iff, section?_eq_ok_iff]
  constructor
  · rintro ⟨project, hproject, tool, htool, own, hown, hsource⟩
    exact ⟨own, ⟨project, tool, hproject, htool, hown⟩, Except.ok.inj hsource⟩
  · rintro ⟨own, ⟨project, tool, hproject, htool, hown⟩, rfl⟩
    exact ⟨project, hproject, tool, htool, own, hown, rfl⟩

end TidyImports
