import TidyImports.Command.Undefined
import TidyImports.Proofs.Command.Inputs
import TidyImports.Proofs.Notebook

/-!
# Unusable notebooks

A text that is no notebook should be refused with a message, which a command reports beside the
file. Most of them are; an entry of the cells that is no table, an item of a source that is no text
and an integer of too many digits end the command instead.

* `Notebook.CellFits`, `Notebook.CellStray` — the entries that are read as cells, and those that are
  not even refused;
* `Notebook.Breaks` — the texts that are neither read nor refused;
* `Notebook.ofText_settled_iff` — reading a text, and the commands around it, settle every other
  text.
-/

namespace TidyImports

open TidyImports.Except

namespace Notebook

/-! ## Cells -/

/-- A text or a list of texts. -/
def SourceFits (v : Value) : Prop :=
  (∃ s, v = .text s) ∨ ∃ pieces, v = .list pieces ∧ ∀ p ∈ pieces, ∃ s, p = .text s

/-- A list with an item that is no text. -/
def SourceStray (v : Value) : Prop :=
  ∃ pieces p, v = .list pieces ∧ p ∈ pieces ∧ ∀ s, p ≠ .text s

/-- A table whose source is a text or a list of texts; without one it is the empty text. -/
def CellFits (v : Value) : Prop :=
  ∃ t, v = .table t ∧ SourceFits ((Table.get? t "source").getD (.text ""))

/-- No table, or a table whose source is a list with an item that is no text. -/
def CellStray (v : Value) : Prop :=
  (∀ t, v ≠ .table t) ∨ ∃ t, v = .table t ∧ SourceStray ((Table.get? t "source").getD (.text ""))

/-- If it fails, then because the text is no notebook. -/
abbrev Refuses {α : Type} (x : Except Failure α) : Prop :=
  FailsOnly (fun f => ∃ fault, f = .notebook fault) x

theorem not_refuses_misuse {α : Type} (how : Misuse) :
    ¬ Refuses (.error (.misuse how) : Except Failure α) := by
  intro h
  obtain ⟨fault, hfault⟩ := failsOnly_error.mp h
  cases hfault

/-- Texts are joined; an item that is no text is not refused. -/
theorem joinTexts_cases (pieces : List Value) :
    ((∀ p ∈ pieces, ∃ s, p = .text s) ∧ ∃ text, joinTexts pieces = .ok text) ∨
      ((∃ p ∈ pieces, ∀ s, p ≠ .text s) ∧ joinTexts pieces = .error (.misuse .wrongKind)) := by
  induction pieces with
  | nil => exact Or.inl ⟨List.forall_mem_nil _, _, rfl⟩
  | cons p rest ih =>
    rw [List.forall_mem_cons, List.exists_mem_cons_iff]
    cases p with
    | text s =>
      rw [joinTexts]
      rcases ih with ⟨htexts, text, htext⟩ | ⟨hstray, herror⟩
      · exact Or.inl ⟨⟨⟨s, rfl⟩, htexts⟩, _, by rw [htext]; rfl⟩
      · exact Or.inr ⟨Or.inr hstray, by rw [herror]; rfl⟩
    | _ => exact Or.inr ⟨Or.inl (by simp), rfl⟩

theorem sourceText_ok_iff {v : Value} : (∃ text, sourceText v = .ok text) ↔ SourceFits v := by
  cases v with
  | text s => exact iff_of_true ⟨_, rfl⟩ (Or.inl ⟨s, rfl⟩)
  | list pieces =>
    rw [sourceText]
    rcases joinTexts_cases pieces with ⟨htexts, htext⟩ | ⟨⟨p, hp, hstray⟩, herror⟩
    · exact iff_of_true htext (Or.inr ⟨pieces, rfl, htexts⟩)
    · refine iff_of_false (by simp [herror]) ?_
      rintro (⟨s, ⟨⟩⟩ | ⟨_, ⟨⟩, htexts⟩)
      obtain ⟨s, hs⟩ := htexts p hp
      exact hstray s hs
  | _ => exact iff_of_false (by simp [sourceText]) (by simp [SourceFits])

theorem refuses_sourceText_iff {v : Value} : Refuses (sourceText v) ↔ ¬ SourceStray v := by
  cases v with
  | text s => exact iff_of_true (failsOnly_ok _) (by simp [SourceStray])
  | list pieces =>
    rw [sourceText]
    rcases joinTexts_cases pieces with ⟨htexts, text, htext⟩ | ⟨⟨p, hp, hstray⟩, herror⟩
    · refine iff_of_true (htext ▸ failsOnly_ok text) ?_
      rintro ⟨_, p, ⟨⟩, hp, hstray⟩
      obtain ⟨s, hs⟩ := htexts p hp
      exact hstray s hs
    · exact iff_of_false (herror ▸ not_refuses_misuse _) fun h => h ⟨pieces, p, rfl, hp, hstray⟩
  | _ => exact iff_of_true (failsOnly_error.mpr ⟨_, rfl⟩) (by simp [SourceStray])

theorem cellOf_ok_iff {v : Value} : (∃ c, cellOf v = .ok c) ↔ CellFits v := by
  cases v with
  | table t =>
    simp only [CellFits, Value.table.injEq, exists_eq_left', ← sourceText_ok_iff, cellOf,
      Except.bind_eq_ok_iff]
    constructor
    · rintro ⟨c, text, htext, -⟩
      exact ⟨text, htext⟩
    · rintro ⟨text, htext⟩
      exact ⟨_, text, htext, rfl⟩
  | _ => exact iff_of_false (by simp [cellOf]) (by simp [CellFits])

theorem refuses_cellOf_iff {v : Value} : Refuses (cellOf v) ↔ ¬ CellStray v := by
  cases v with
  | table t =>
    have hkind : ¬ ∀ u, Value.table t ≠ .table u := fun h => h t rfl
    simp only [CellStray, Value.table.injEq, exists_eq_left', or_iff_right hkind,
      ← refuses_sourceText_iff, cellOf, failsOnly_bind, failsOnly_pure, implies_true, and_true]
  | _ => exact iff_of_false (not_refuses_misuse _) (by simp [CellStray])

theorem refuses_cellsOf_iff {raw : List Value} :
    Refuses (cellsOf raw) ↔ ¬ FirstStray CellFits CellStray raw := by
  induction raw with
  | nil => exact iff_of_true (failsOnly_ok _) not_firstStray_nil
  | cons v rest ih =>
    simp only [cellsOf, failsOnly_bind, failsOnly_pure, implies_true, and_true, ih,
      refuses_cellOf_iff, firstStray_cons_iff, not_or, not_and, ← cellOf_ok_iff,
      forall_exists_index]

theorem forall₂_of_cellsOf {raw : List Value} {cells : List Cell} (h : cellsOf raw = .ok cells) :
    List.Forall₂ (fun v c => cellOf v = .ok c) raw cells := by
  induction raw generalizing cells with
  | nil =>
    cases h
    exact .nil
  | cons v rest ih =>
    obtain ⟨c, cs, hc, hcs, rfl⟩ := cellsOf_cons.mp h
    exact .cons hc (ih hcs)

/-! ## Texts -/

/-- A text that is neither read nor refused: an integer in it has too many digits, or the first
entry of its cells that is not read as a cell is not refused. -/
inductive Breaks (content : Text) : Prop
  | digits {n : Nat} (h : Json.parse content = .error (.tooLong n))
  | cell {data : Table} {raw : List Value} (hparse : Json.parse content = .ok (.table data))
    (hraw : Table.get? data "cells" = some (.list raw))
    (hstray : FirstStray CellFits CellStray raw)

theorem refuses_ofText_iff (content : Text) (path : Option String) :
    Refuses (ofText content path) ↔ ¬ Breaks content := by
  unfold ofText
  split
  · rename_i n h
    refine iff_of_false (fun hrefuses => ?_) fun hbreaks => hbreaks (.digits h)
    obtain ⟨fault, hfault⟩ := failsOnly_error.mp hrefuses
    cases hfault
  · rename_i fault hshort h
    refine iff_of_true (failsOnly_error.mpr ⟨_, rfl⟩) ?_
    rintro (hdigits | ⟨hparse, -, -⟩)
    · cases h.symm.trans hdigits
      exact hshort _ rfl
    · cases h.symm.trans hparse
  · rename_i data h
    split
    · rename_i raw hraw
      refine (failsOnly_map.trans refuses_cellsOf_iff).trans (not_congr ⟨.cell h hraw, ?_⟩)
      rintro (hdigits | ⟨hparse, hraw', hstray⟩)
      · cases h.symm.trans hdigits
      · cases h.symm.trans hparse
        cases hraw.symm.trans hraw'
        exact hstray
    · rename_i hother
      refine iff_of_true (failsOnly_error.mpr ⟨_, rfl⟩) ?_
      rintro (hdigits | ⟨hparse, hraw, -⟩)
      · cases h.symm.trans hdigits
      · cases h.symm.trans hparse
        exact hother _ hraw
  · rename_i v hother h
    refine iff_of_true (failsOnly_error.mpr ⟨_, rfl⟩) ?_
    rintro (hdigits | ⟨hparse, -, -⟩)
    · cases h.symm.trans hdigits
    · cases h.symm.trans hparse
      exact hother _ rfl

/-- What is read holds one cell for each entry of the cells. -/
theorem cells_of_ofText {content : Text} {path : Option String} {notebook : Notebook}
    (h : ofText content path = .ok notebook) :
    Json.parse content = .ok (.table notebook.data) ∧
      ∃ raw, Table.get? notebook.data "cells" = some (.list raw) ∧
        List.Forall₂ (fun v c => cellOf v = .ok c) raw notebook.cells := by
  unfold ofText at h
  split at h
  · cases h
  · cases h
  · rename_i data hparse
    split at h
    · rename_i raw hraw
      obtain ⟨cells, hcells, rfl⟩ := Except.map_eq_ok_iff.mp h
      exact ⟨hparse, raw, hraw, forall₂_of_cellsOf hcells⟩
    · cases h
  · cases h

/-! ## Failures that are reported -/

/-- A refusal, or a failure that no command reports. -/
def RefusalOrCrash (f : Failure) : Prop := (∃ fault, f = .notebook fault) ∨ f.reportable = false

theorem failsOnly_sourceText (v : Value) : FailsOnly RefusalOrCrash (sourceText v) := by
  cases v with
  | text s => exact failsOnly_ok _
  | list pieces =>
    rw [sourceText]
    rcases joinTexts_cases pieces with ⟨-, text, htext⟩ | ⟨-, herror⟩
    · exact htext ▸ failsOnly_ok text
    · exact herror ▸ failsOnly_error.mpr (Or.inr rfl)
  | _ => exact failsOnly_error.mpr (Or.inl ⟨_, rfl⟩)

theorem failsOnly_cellsOf (raw : List Value) : FailsOnly RefusalOrCrash (cellsOf raw) := by
  induction raw with
  | nil => exact failsOnly_ok _
  | cons v rest ih =>
    have hcell : FailsOnly RefusalOrCrash (cellOf v) := by
      cases v with
      | table t => exact failsOnly_bind.mpr ⟨failsOnly_sourceText _, fun _ _ => failsOnly_pure _⟩
      | _ => exact failsOnly_error.mpr (Or.inr rfl)
    exact failsOnly_bind.mpr
      ⟨hcell, fun _ _ => failsOnly_bind.mpr ⟨ih, fun _ _ => failsOnly_pure _⟩⟩

theorem failsOnly_ofText (content : Text) (path : Option String) :
    FailsOnly RefusalOrCrash (ofText content path) := by
  unfold ofText
  split
  · exact failsOnly_error.mpr (Or.inr rfl)
  · exact failsOnly_error.mpr (Or.inl ⟨_, rfl⟩)
  · split
    · exact failsOnly_map.mpr (failsOnly_cellsOf _)
    · exact failsOnly_error.mpr (Or.inl ⟨_, rfl⟩)
  · exact failsOnly_error.mpr (Or.inl ⟨_, rfl⟩)

/-- A command reports just the refusals. -/
theorem reportable_iff_of_ofText {content : Text} {path : Option String} {f : Failure}
    (h : ofText content path = .error f) : f.reportable = true ↔ ¬ Breaks content := by
  rw [← refuses_ofText_iff content path]
  constructor
  · intro hreportable g hg
    cases h.symm.trans hg
    rcases failsOnly_ofText content path f h with hrefusal | hcrash
    · exact hrefusal
    · cases hreportable.symm.trans hcrash
  · intro hrefuses
    obtain ⟨fault, rfl⟩ := hrefuses f h
    rfl

end Notebook

/-! ## Commands -/

namespace Command

variable {ρ : Type} (launch : Launcher (World ρ))

/-- A run of `format` comes to a notebook of that text and name. -/
def FormatsNotebook (o : FormatOptions) (path : String) (s : Session (World ρ)) (name : PathName)
    (content : Text) (ending : Text.Ending) (t : Session (World ρ)) : Prop :=
  o.inputName s.world.disk path = .ok name ∧ isNotebook name = true ∧
    outcome (readInput path name) s = (.ok (.ok (content, ending)), t)

/-- A notebook that is not read becomes the report of its input, or ends the command. -/
theorem outcome_formatInput_of_error {settings : Settings} {o : FormatOptions} {path : String}
    {s t : Session (World ρ)} {name : PathName} {content : Text} {ending : Text.Ending}
    {f : Failure} (h : FormatsNotebook o path s name content ending t)
    (hf : Notebook.ofText content (some name.toString) = .error f) :
    outcome (formatInput launch settings o path) s =
      if f.reportable then
        (.ok (FileReport.fail
          { path := path, before := content, after := content, ending := ending } f), t)
      else (.error (.crash f), t) := by
  obtain ⟨hname, hnotebook, hread⟩ := h
  have hrun : (formatText launch settings o content name).outcome t = (.error f, t) := by
    rw [formatText, if_pos hnotebook, formatCells, hf]
    rfl
  rw [formatInput, outcome_world_bind, outcome_ofExcept_bind hname, outcome_bind_ok hread]
  simp only
  rw [outcome_attempt_bind hrun]
  simp only
  split <;> rfl

/-- A run of `undefined` comes to a notebook of that text and name. -/
def InspectsNotebook (o : UndefinedOptions) (s : Session (World ρ)) (name : PathName)
    (content : Text) : Prop :=
  (∃ settings map,
    loadSettings s.world.disk s.world.env [] s.world.disk.currentName = .ok settings ∧
      settings.importMap = .ok map) ∧
  s.world.disk.resolve (.ofString o.path) = .ok name ∧ IsInput s.world.disk name ∧
  isNotebook name = true ∧ s.world.disk.readText name s.world.guard = .ok content

theorem outcome_undefined_of_error {o : UndefinedOptions} {s : Session (World ρ)}
    {name : PathName} {content : Text} {f : Failure} (h : InspectsNotebook o s name content)
    (hf : Notebook.ofText content (some name.toString) = .error f) :
    outcome (undefined launch o) s =
      if f.reportable then
        outcome (do complain o.verbose f.describe; stop f.exitCode : Command ρ Unit) s
      else (.error (.crash f), s) := by
  obtain ⟨⟨settings, map, hsettings, hmap⟩, hname, hinput, hnotebook, hread⟩ := h
  have hinspect : (inspect launch s.world settings name o.cell).outcome s = (.error f, s) := by
    have hload : Notebook.load s.world.disk name s.world.guard = .error f := by
      rw [Notebook.load, hread]
      exact hf
    rw [inspect, Run.outcome_bind, Run.outcome_ofExcept, hmap]
    simp only
    rw [if_pos hnotebook, Run.outcome_bind, Run.outcome_ofExcept, hload]
  have hresolve : outcome (resolve o.path) s = (.ok name, s) := by
    rw [resolve, outcome_world_bind, outcome_ofExcept, hname]
    rfl
  rw [undefined, outcome_world_bind, outcome_bind_ok (outcome_settings hsettings),
    outcome_bind_ok hresolve, outcome_bind_ok (outcome_requireInput "File" hinput)]
  simp only [hnotebook, Bool.not_true, Bool.and_false, Bool.false_eq_true, ↓reduceIte]
  rw [outcome_world_bind, outcome_attempt_bind hinspect]
  simp only
  split <;> rfl

end Command

namespace Notebook

open Command

/-- **Notebooks read or refused.** A text is read as a notebook with one cell for each entry of its
cells, or refused, exactly when it does not break. A refusal becomes the report of its input in
`format`, which goes on, and the message of `undefined`; a text that breaks ends either command. -/
theorem ofText_settled_iff (content : Text) :
    (∀ path,
      ((∃ notebook raw, ofText content path = .ok notebook ∧
          Json.parse content = .ok (.table notebook.data) ∧
          Table.get? notebook.data "cells" = some (.list raw) ∧
          List.Forall₂ (fun v c => cellOf v = .ok c) raw notebook.cells) ∨
        ∃ fault, ofText content path = .error (.notebook fault)) ↔ ¬ Breaks content) ∧
    (∀ (ρ : Type) (launch : Launcher (World ρ)) (settings : Settings) (o : FormatOptions)
      (path : String) (s t : Session (World ρ)) (name : PathName) (ending : Text.Ending)
      (f : Failure),
      FormatsNotebook o path s name content ending t →
      ofText content (some name.toString) = .error f →
        (¬ Breaks content → outcome (formatInput launch settings o path) s =
          (.ok (FileReport.fail
            { path := path, before := content, after := content, ending := ending } f), t)) ∧
        (Breaks content →
          outcome (formatInput launch settings o path) s = (.error (.crash f), t))) ∧
    ∀ (ρ : Type) (launch : Launcher (World ρ)) (o : UndefinedOptions) (s : Session (World ρ))
      (name : PathName) (f : Failure),
      InspectsNotebook o s name content → ofText content (some name.toString) = .error f →
        (¬ Breaks content → outcome (undefined launch o) s =
          outcome (do complain o.verbose f.describe; stop f.exitCode : Command ρ Unit) s) ∧
        (Breaks content → outcome (undefined launch o) s = (.error (.crash f), s)) := by
  refine ⟨fun path => ?_, ?_, ?_⟩
  · rw [← refuses_ofText_iff content path]
    constructor
    · rintro (⟨notebook, raw, h, -⟩ | ⟨fault, h⟩) f hf
      · cases h.symm.trans hf
      · cases h.symm.trans hf
        exact ⟨fault, rfl⟩
    · intro hrefuses
      cases h : ofText content path with
      | ok notebook =>
        obtain ⟨hparse, raw, hraw, hcells⟩ := cells_of_ofText h
        exact Or.inl ⟨notebook, raw, rfl, hparse, hraw, hcells⟩
      | error f =>
        obtain ⟨fault, rfl⟩ := hrefuses f h
        exact Or.inr ⟨fault, rfl⟩
  · intro ρ launch settings o path s t name ending f h hf
    rw [outcome_formatInput_of_error launch h hf]
    constructor
    · intro hsettled
      rw [if_pos ((reportable_iff_of_ofText hf).mpr hsettled)]
    · intro hbreaks
      rw [if_neg fun hreportable => (reportable_iff_of_ofText hf).mp hreportable hbreaks]
  · intro ρ launch o s name f h hf
    rw [outcome_undefined_of_error launch h hf]
    constructor
    · intro hsettled
      rw [if_pos ((reportable_iff_of_ofText hf).mpr hsettled)]
    · intro hbreaks
      rw [if_neg fun hreportable => (reportable_iff_of_ofText hf).mp hreportable hbreaks]

/-- An item of a source that is no text, and an entry that is no table. -/
theorem ofText_broken :
    (∃ f, ofText "\x7b\"cells\": [\x7b\"source\": [1]\x7d]\x7d".toList none = .error f ∧
        f.reportable = false) ∧
      ∃ f, ofText "\x7b\"cells\": [1]\x7d".toList none = .error f ∧ f.reportable = false := by
  have crashes {content : Text}
      (h : failsWith (fun f => !f.reportable) (ofText content none) = true) :
      ∃ f, ofText content none = .error f ∧ f.reportable = false := by
    obtain ⟨f, hf, hreportable⟩ := failsWith_iff.mp h
    exact ⟨f, hf, by simpa using hreportable⟩
  exact ⟨crashes (by decide +kernel), crashes (by decide +kernel)⟩

end Notebook
end TidyImports
