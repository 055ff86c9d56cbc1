import Mathlib
import TidyImports.Notebook
import TidyImports.Proofs.Data.Json.RoundTrip

/-!
# Notebooks written and read back

The texts of a notebook's cells are held twice. `Sound` says that both copies agree and that the
data can be written and read back; a notebook that was read is sound, and every change of a text
leaves it so.

* `Sound.setText` — a changed text changes both copies alike;
* `Sound.ofText_toText` — a sound notebook is read back from what is written for it;
* `Edited.setText` — what one more change makes of the cells;
* `parse_toText_setTexts` — after any changes, the written text holds the data that was read, but
  for the sources of the changed cells, and reads back as the notebook in memory.
-/

namespace TidyImports.Notebook

/-! ## Sources -/

theorem joinTexts_map_text (pieces : List Text) :
    joinTexts (pieces.map fun piece => .text (String.ofList piece)) = .ok pieces.flatten := by
  induction pieces with
  | nil => rfl
  | cons piece pieces ih => simp [joinTexts, ih, Except.map]

theorem sourceText_sourceLines (text : Text) : sourceText (sourceLines text) = .ok text := by
  rw [sourceLines, sourceText, joinTexts_map_text, Text.flatten_cut]

theorem cellOf_eq_ok {v : Value} {c : Cell} (h : cellOf v = .ok c) :
    ∃ t, v = .table t ∧ c.kind = ((Table.get? t "cell_type").getD (.text "code")).display ∧
      sourceText ((Table.get? t "source").getD (.text "")) = .ok c.text := by
  unfold cellOf at h
  split at h
  · rename_i t
    obtain ⟨text, htext, h⟩ := Except.bind_eq_ok_iff.mp h
    cases h
    exact ⟨t, rfl, rfl, htext⟩
  · cases h

theorem cellOf_withSource {v : Value} {c : Cell} (h : cellOf v = .ok c) (text : Text) :
    cellOf (withSource text v) = .ok { c with text := text } := by
  obtain ⟨t, rfl, hkind, -⟩ := cellOf_eq_ok h
  rw [withSource, cellOf, Table.get?_put, Table.get?_put, if_pos rfl, if_neg (by decide),
    Option.getD_some, sourceText_sourceLines, hkind]
  rfl

theorem cellsOf_cons {v : Value} {raw : List Value} {cells : List Cell} :
    cellsOf (v :: raw) = .ok cells ↔
      ∃ c cs, cellOf v = .ok c ∧ cellsOf raw = .ok cs ∧ cells = c :: cs := by
  rw [cellsOf]
  constructor
  · intro h
    obtain ⟨c, hc, h⟩ := Except.bind_eq_ok_iff.mp h
    obtain ⟨cs, hcs, h⟩ := Except.bind_eq_ok_iff.mp h
    cases h
    exact ⟨c, cs, hc, hcs, rfl⟩
  · rintro ⟨c, cs, hc, hcs, rfl⟩
    rw [hc, hcs]
    rfl

theorem cellsOf_modify {raw : List Value} {cells : List Cell} (h : cellsOf raw = .ok cells)
    (i : Nat) (text : Text) :
    cellsOf (raw.modify i (withSource text)) =
      .ok (cells.modify i fun c => { c with text := text }) := by
  induction raw generalizing cells i with
  | nil =>
    cases h
    simp [cellsOf]
  | cons v raw ih =>
    obtain ⟨c, cs, hc, hcs, rfl⟩ := cellsOf_cons.mp h
    cases i with
    | zero =>
      rw [List.modify_zero_cons, List.modify_zero_cons]
      exact cellsOf_cons.mpr ⟨_, cs, cellOf_withSource hc text, hcs, rfl⟩
    | succ i =>
      rw [List.modify_succ_cons, List.modify_succ_cons]
      exact cellsOf_cons.mpr ⟨c, _, hc, ih hcs i, rfl⟩

theorem isTable_of_cellsOf {raw : List Value} {cells : List Cell} (h : cellsOf raw = .ok cells)
    {v : Value} (hv : v ∈ raw) : ∃ t, v = .table t := by
  induction raw generalizing cells with
  | nil => cases hv
  | cons w raw ih =>
    obtain ⟨c, cs, hc, hcs, -⟩ := cellsOf_cons.mp h
    rcases List.mem_cons.mp hv with rfl | hv
    · obtain ⟨t, heq, -⟩ := cellOf_eq_ok hc
      exact ⟨t, heq⟩
    · exact ih hcs hv

/-! ## Both copies of the cells -/

/-- Both copies of the cells agree, and the data can be written and read back. -/
structure Sound (notebook : Notebook) (raw : List Value) : Prop where
  found : Table.get? notebook.data "cells" = some (.list raw)
  cells : cellsOf raw = .ok notebook.cells
  readable : (Value.table notebook.data).Readable
  whole : (Value.table notebook.data).Whole

theorem readable_withSource {v : Value} (h : v.Readable) (text : Text) :
    (withSource text v).Readable := by
  unfold withSource
  split
  · refine h.put "source" (.list fun v hv => ?_)
    obtain ⟨piece, -, rfl⟩ := List.mem_map.mp hv
    exact .text _
  · exact h

theorem whole_withSource {v : Value} (h : v.Whole) (text : Text) : (withSource text v).Whole := by
  unfold withSource
  split
  · refine h.put "source" (.list fun v hv => ?_)
    obtain ⟨piece, -, rfl⟩ := List.mem_map.mp hv
    exact .text _
  · exact h

theorem forall_mem_modify {p : Value → Prop} {f : Value → Value} {items : List Value}
    (h : ∀ v ∈ items, p v) (hf : ∀ v, p v → p (f v)) (i : Nat) : ∀ v ∈ items.modify i f, p v := by
  intro v hv
  obtain ⟨j, hj⟩ := List.mem_iff_getElem?.mp hv
  rw [List.getElem?_modify, Option.map_eq_map, Option.map_eq_some_iff] at hj
  obtain ⟨w, hw, rfl⟩ := hj
  have hp := h w (List.mem_of_getElem? hw)
  split
  · exact hf w hp
  · exact hp

theorem setCells_of_found {data : Table} {raw : List Value}
    (h : Table.get? data "cells" = some (.list raw)) (i : Nat) (text : Text) :
    setCells data i text = Table.put data "cells" (.list (raw.modify i (withSource text))) := by
  rw [setCells, h]
  rfl

namespace Sound

variable {notebook : Notebook} {raw : List Value}

theorem setText (h : Sound notebook raw) (i : Nat) (text : Text) :
    Sound (notebook.setText i text) (raw.modify i (withSource text)) := by
  have hmem := Table.mem_of_get? h.found
  have hdata := setCells_of_found h.found i text
  constructor
  · rw [Notebook.setText, hdata, Table.get?_put, if_pos rfl]
  · exact cellsOf_modify h.cells i text
  · have hraw : (Value.list raw).Readable := by
      cases h.readable with
      | table _ each => exact each _ hmem
    rw [Notebook.setText, hdata]
    cases hraw with
    | list each =>
      exact h.readable.put "cells"
        (.list (forall_mem_modify each (fun _ hv => readable_withSource hv text) i))
  · have hraw : (Value.list raw).Whole := by
      cases h.whole with
      | table each => exact each _ hmem
    rw [Notebook.setText, hdata]
    cases hraw with
    | list each =>
      exact h.whole.put "cells"
        (.list (forall_mem_modify each (fun _ hv => whole_withSource hv text) i))

theorem parse_toText (h : Sound notebook raw) :
    Json.parse notebook.toText = .ok (.table notebook.data) :=
  Json.parse_write h.readable h.whole (.indented 1) 0 (List.forall_mem_singleton.mpr rfl)

/-- A sound notebook is read back from what is written for it. -/
theorem ofText_toText (h : Sound notebook raw) (path : Option String) :
    ofText notebook.toText path = .ok notebook := by
  simp only [ofText, h.parse_toText, h.found, h.cells]
  rfl

end Sound

theorem sound_of_ofText {content : Text} {path : Option String} {data : Table}
    {notebook : Notebook} (hparse : Json.parse content = .ok (.table data))
    (hwhole : (Value.table data).Whole) (h : ofText content path = .ok notebook) :
    notebook.data = data ∧ ∃ raw, Sound notebook raw := by
  rw [ofText, hparse] at h
  simp only at h
  split at h
  · rename_i raw hraw
    obtain ⟨cells, hcells, rfl⟩ := Except.map_eq_ok_iff.mp h
    exact ⟨rfl, raw, hraw, hcells, Json.readable_of_parse hparse, hwhole⟩
  · cases h

/-! ## Changed cells -/

/-- How a cell of the data has changed: not at all, or its source is now a list of texts that spell
the given one. -/
def Resourced : Option Text → Value → Value → Prop
  | none, v, w => w = v
  | some text, v, w =>
    ∃ (t t' : Table) (pieces : List String), v = .table t ∧ w = .table t' ∧ Table.SameBut "source" t t' ∧
      Table.get? t' "source" = some (.list (pieces.map .text)) ∧
      (pieces.map String.toList).flatten = text

theorem resourced_withSource {last : Option Text} {v : Value} {t : Table}
    (h : Resourced last v (.table t)) (text : Text) :
    Resourced (some text) v (withSource text (.table t)) := by
  have hput : Table.SameBut "source" t (Table.put t "source" (sourceLines text)) :=
    Table.sameBut_put t "source" _
  obtain ⟨t₀, rfl, hsame⟩ : ∃ t₀, v = .table t₀ ∧
      Table.SameBut "source" t₀ (Table.put t "source" (sourceLines text)) := by
    cases last with
    | none => exact ⟨t, h.symm, hput⟩
    | some old =>
      obtain ⟨t₀, t', -, rfl, heq, hsame, -⟩ := h
      cases heq
      exact ⟨t₀, rfl, hsame.trans hput⟩
  refine ⟨t₀, _, (Text.cut text).map String.ofList, rfl, rfl, hsame, ?_, ?_⟩
  · rw [Table.get?_put, if_pos rfl, sourceLines, List.map_map]
    rfl
  · have hid : String.toList ∘ String.ofList = id := by
      funext piece
      exact String.toList_ofList
    rw [List.map_map, hid, List.map_id, Text.flatten_cut]

/-- What changes make of a notebook and of the cells in its data, `last` being the last text that
was set at each place. -/
structure Edited (last : Nat → Option Text) (before after : Notebook) (raw raw' : List Value) :
    Prop where
  sound : Sound after raw'
  frame : Table.SameBut "cells" before.data after.data
  length : raw'.length = raw.length
  source : ∀ i v w, raw[i]? = some v → raw'[i]? = some w → Resourced (last i) v w
  cells : after.cells =
    before.cells.mapIdx fun i c => { c with text := (last i).getD c.text }

theorem edited_none {notebook : Notebook} {raw : List Value} (h : Sound notebook raw) :
    Edited (fun _ => none) notebook notebook raw raw where
  sound := h
  frame := ⟨by rw [if_pos (Table.mem_keys_of_get? h.found)], fun _ _ => rfl⟩
  length := rfl
  source := by
    intro i v w hv hw
    exact Option.some.inj (hw.symm.trans hv)
  cells := by
    apply List.ext_getElem?
    intro i
    rw [List.getElem?_mapIdx]
    cases notebook.cells[i]? with
    | none => rfl
    | some c => rfl

theorem Edited.setText {last : Nat → Option Text} {before after : Notebook} {raw raw' : List Value}
    (h : Edited last before after raw raw') (i : Nat) (text : Text) :
    Edited (fun j => if i = j then some text else last j) before (after.setText i text) raw
      (raw'.modify i (withSource text)) where
  sound := h.sound.setText i text
  frame := by
    rw [Notebook.setText, setCells_of_found h.sound.found]
    exact h.frame.trans (Table.sameBut_put _ _ _)
  length := by rw [List.length_modify, h.length]
  source := by
    intro j v w hv hw
    rw [List.getElem?_modify, Option.map_eq_map, Option.map_eq_some_iff] at hw
    obtain ⟨u, hu, rfl⟩ := hw
    have hold := h.source j v u hv hu
    obtain ⟨t, rfl⟩ := isTable_of_cellsOf h.sound.cells (List.mem_of_getElem? hu)
    split
    · exact resourced_withSource hold text
    · exact hold
  cells := by
    rw [Notebook.setText, h.cells]
    apply List.ext_getElem?
    intro j
    rw [List.getElem?_modify, List.getElem?_mapIdx, List.getElem?_mapIdx]
    cases before.cells[j]? with
    | none => rfl
    | some c =>
      by_cases hj : i = j
      · simp [hj]
      · simp [hj]

/-! ## Many changes -/

/-- The texts set one after the other, at the places that their indices mean. -/
def setTexts? (notebook : Notebook) : List (Int × Text) → Option Notebook
  | [] => some notebook
  | (index, text) :: rest => do
    let i ← notebook.place? index
    (notebook.setText i text).setTexts? rest

/-- The last text that the changes set at a place. -/
def lastText? (notebook : Notebook) (changes : List (Int × Text)) (i : Nat) : Option Text :=
  ((changes.filter fun change => notebook.place? change.1 = some i).getLast?).map (·.2)

theorem lastText?_concat (notebook : Notebook) (changes : List (Int × Text)) (index : Int)
    (text : Text) (i : Nat) :
    notebook.lastText? (changes ++ [(index, text)]) i =
      if notebook.place? index = some i then some text else notebook.lastText? changes i := by
  unfold lastText?
  rw [List.filter_append]
  split
  · rename_i h
    simp [h]
  · rename_i h
    simp [h]

theorem setTexts?_concat (notebook : Notebook) (changes : List (Int × Text)) (index : Int)
    (text : Text) :
    notebook.setTexts? (changes ++ [(index, text)]) =
      (do
        let after ← notebook.setTexts? changes
        let i ← after.place? index
        pure (after.setText i text)) := by
  induction changes generalizing notebook with
  | nil => rfl
  | cons change changes ih =>
    rw [List.cons_append, setTexts?, setTexts?]
    cases notebook.place? change.1 with
    | none => rfl
    | some i => exact ih (notebook.setText i change.2)

theorem place?_of_valid (notebook : Notebook) {index : Int}
    (h : -(notebook.cells.length : Int) ≤ index ∧ index < notebook.cells.length) :
    ∃ i, notebook.place? index = some i := by
  unfold place?
  simp only
  split <;> rw [if_pos (by omega)] <;> exact ⟨_, rfl⟩

theorem place?_congr {before after : Notebook} (h : after.cells.length = before.cells.length)
    (index : Int) : after.place? index = before.place? index := by
  unfold place?
  rw [h]

theorem exists_setTexts {notebook : Notebook} {raw : List Value} (hsound : Sound notebook raw)
    {changes : List (Int × Text)}
    (hvalid : ∀ change ∈ changes,
      -(notebook.cells.length : Int) ≤ change.1 ∧ change.1 < notebook.cells.length) :
    ∃ after raw', notebook.setTexts? changes = some after ∧
      Edited (notebook.lastText? changes) notebook after raw raw' := by
  induction changes using List.reverseRecOn with
  | nil => exact ⟨notebook, raw, rfl, edited_none hsound⟩
  | append_singleton changes change ih =>
    obtain ⟨index, text⟩ := change
    obtain ⟨after, raw', hset, hedited⟩ :=
      ih fun c hc => hvalid c (List.mem_append_left _ hc)
    obtain ⟨i, hplace⟩ := notebook.place?_of_valid (hvalid (index, text) (by simp))
    have hlen : after.cells.length = notebook.cells.length := by
      rw [hedited.cells, List.length_mapIdx]
    refine ⟨after.setText i text, raw'.modify i (withSource text), ?_, ?_⟩
    · rw [setTexts?_concat, hset]
      simp [place?_congr hlen, hplace]
    · have hlast : notebook.lastText? (changes ++ [(index, text)]) =
          fun j => if i = j then some text else notebook.lastText? changes j := by
        funext j
        rw [lastText?_concat, hplace]
        simp
      rw [hlast]
      exact hedited.setText i text

/-- **Notebooks there and back.** Whatever texts are set in a notebook whose numbers are integers,
the text written for it holds the data that was read with their keys in the same order, but for the
sources of the changed cells, and it reads back as the cells in memory. -/
theorem parse_toText_setTexts {content : Text} {path : Option String} {data : Table}
    {notebook : Notebook} {changes : List (Int × Text)}
    (hparse : Json.parse content = .ok (.table data)) (hwhole : (Value.table data).Whole)
    (hread : ofText content path = .ok notebook)
    (hvalid : ∀ change ∈ changes,
      -(notebook.cells.length : Int) ≤ change.1 ∧ change.1 < notebook.cells.length) :
    ∃ (after : Notebook) (data' : Table) (raw raw' : List Value),
      notebook.setTexts? changes = some after ∧
      Json.parse after.toText = .ok (.table data') ∧
      Table.SameBut "cells" data data' ∧
      Table.get? data "cells" = some (.list raw) ∧ Table.get? data' "cells" = some (.list raw') ∧
      raw'.length = raw.length ∧
      (∀ i v w, raw[i]? = some v → raw'[i]? = some w →
        Resourced (notebook.lastText? changes i) v w) ∧
      after.cells = notebook.cells.mapIdx (fun i c =>
        { c with text := (notebook.lastText? changes i).getD c.text }) ∧
      ∀ path', ∃ again, ofText after.toText path' = .ok again ∧ again.cells = after.cells := by
  obtain ⟨rfl, raw, hsound⟩ := sound_of_ofText hparse hwhole hread
  obtain ⟨after, raw', hset, hedited⟩ := exists_setTexts hsound hvalid
  refine ⟨after, after.data, raw, raw', hset, hedited.sound.parse_toText, hedited.frame,
    hsound.found, hedited.sound.found, hedited.length, hedited.source, hedited.cells, ?_⟩
  intro path'
  exact ⟨after, hedited.sound.ofText_toText path', rfl⟩

/-- A notebook with a cell of prose and a cell that has no kind and no source. -/
def plain : Text :=
  ("\x7b\"cells\": [\x7b\"cell_type\": \"markdown\", \"source\": [\"# a\\n\", \"b\"]\x7d, " ++
    "\x7b\"id\": -7\x7d], \"nbformat\": 4\x7d").toList

def plainData : Table :=
  [("cells", .list [.table [("cell_type", .text "markdown"),
      ("source", .list [.text "# a\n", .text "b"])], .table [("id", .int (-7))]]),
    ("nbformat", .int 4)]

def plainNotebook : Notebook := ⟨plainData, [⟨"markdown", "# a\nb".toList⟩, ⟨"code", []⟩]⟩

def plainChanges : List (Int × Text) :=
  [(1, "import os".toList), (0, "\"\u2028\\".toList), (-1, "x\r\n\ty".toList)]

theorem whole_plainData : (Value.table plainData).Whole := by
  have hprose : (Value.table [("cell_type", .text "markdown"),
      ("source", .list [.text "# a\n", .text "b"])]).Whole := by
    refine .table ?_
    simp only [List.forall_mem_cons]
    refine ⟨.text _, .list ?_, by simp⟩
    simp [Value.Whole.text]
  refine .table ?_
  simp only [plainData, List.forall_mem_cons]
  refine ⟨.list ?_, .int 4, by simp⟩
  simp only [List.forall_mem_cons]
  refine ⟨hprose, .table ?_, by simp⟩
  simp [Value.Whole.int]

theorem parse_toText_setTexts_plain :
    Json.parse plain = .ok (.table plainData) ∧ ofText plain none = .ok plainNotebook ∧
      ∃ after data', plainNotebook.setTexts? plainChanges = some after ∧
        Json.parse after.toText = .ok (.table data') ∧ Table.keys data' = ["cells", "nbformat"] ∧
        ∀ path, ∃ again, ofText after.toText path = .ok again ∧
          again.cells = [⟨"markdown", "\"\u2028\\".toList⟩, ⟨"code", "x\r\n\ty".toList⟩] := by
  have hparse : Json.parse plain = .ok (.table plainData) := by cbv
  have hread : ofText plain none = .ok plainNotebook := by cbv
  have hvalid : ∀ change ∈ plainChanges, -(plainNotebook.cells.length : Int) ≤ change.1 ∧
      change.1 < plainNotebook.cells.length := by decide
  obtain ⟨after, data', raw, raw', hset, hwritten, hframe, -, -, -, -, hcells, hagain⟩ :=
    parse_toText_setTexts hparse whole_plainData hread hvalid
  refine ⟨hparse, hread, after, data', hset, hwritten, hframe.keys, ?_⟩
  intro path
  obtain ⟨again, hof, heq⟩ := hagain path
  refine ⟨again, hof, ?_⟩
  rw [heq, hcells]
  decide

end TidyImports.Notebook
