import TidyImports.Disk.Source

/-!
# Files that are overwritten

A name without double dots leads to the place that it spells, as long as something is there. What a
name leads to depends on the kinds of the nodes only (`SameShape`), and overwriting a file changes
no kind (`Overwritten`), so that names keep their meaning while files are overwritten.

* `find?_resolved` — where a resolved name leads to;
* `SameShape.resolve_eq`, `SameShape.locate_eq` — names on disks of one shape;
* `FileAt.readSource_eq`, `FileAt.writeSource_eq` — reading and overwriting a source file, as long
  as the system opens it.
-/

namespace TidyImports

def Node.isFolder : Node → Bool
  | .folder => true
  | .file _ => false

namespace Disk

/-! ## Entries -/

theorem lookup_setEntry (entries : List (Place × Node)) (place p : Place) (node : Node) :
    (setEntry entries place node).lookup p = if p = place then some node else entries.lookup p := by
  induction entries with
  | nil =>
    by_cases hp : p = place
    · simp [setEntry, hp]
    · simp [setEntry, hp, List.lookup_cons, beq_eq_false_iff_ne.mpr hp]
  | cons e rest ih =>
    obtain ⟨q, n⟩ := e
    by_cases hq : q = place
    · subst hq
      by_cases hp : p = q
      · simp [setEntry, hp]
      · simp [setEntry, hp, List.lookup_cons, beq_eq_false_iff_ne.mpr hp]
    · rw [setEntry, if_neg hq]
      by_cases hp : p = q
      · subst hp
        simp [hq]
      · simp only [List.lookup_cons, beq_eq_false_iff_ne.mpr hp]
        exact ih

theorem node?_put (disk : Disk) {place : Place} (hplace : place ≠ []) (node : Node) (p : Place) :
    (disk.put place node).node? p = if p = place then some node else disk.node? p := by
  unfold node? put
  rw [lookup_setEntry]
  cases p with
  | nil => simp [Ne.symm hplace]
  | cons part rest => rfl

theorem ne_nil_of_file {disk : Disk} {place : Place} {bytes : Utf8.Bytes}
    (h : disk.node? place = some (.file bytes)) : place ≠ [] := by
  rintro rfl
  cases h

/-! ## Names without double dots -/

theorem up_notMem_collapse {done parts : List String} (h : ".." ∉ done) :
    ".." ∉ PathName.collapse done parts := by
  induction parts generalizing done with
  | nil => exact h
  | cons part rest ih =>
    rw [PathName.collapse]
    apply ih
    split
    · exact fun hmem => h ((List.dropLast_sublist done).subset hmem)
    · rename_i hpart
      rw [List.mem_append, List.mem_singleton]
      rintro (hmem | heq)
      · exact h hmem
      · exact hpart heq.symm

/-- An absolute name without double dots. -/
structure Resolved (name : PathName) : Prop where
  root : name.root = "/"
  parts : ".." ∉ name.parts

theorem resolved_of_resolve {disk : Disk} {p name : PathName} (h : disk.resolve p = .ok name) :
    Resolved name := by
  unfold resolve at h
  split at h
  · cases h
  · split at h
    · cases h
    · cases h
      exact ⟨rfl, up_notMem_collapse (by simp)⟩

theorem walk_eq_append {disk : Disk} {place q : Place} {parts : List String} (hup : ".." ∉ parts)
    (h : disk.walk place parts = .ok q) : q = place ++ parts := by
  induction parts generalizing place with
  | nil =>
    cases h
    rw [List.append_nil]
  | cons part rest ih =>
    rw [List.mem_cons, not_or] at hup
    rw [walk, if_neg (Ne.symm hup.1)] at h
    split at h
    · cases h
    · split at h
      · cases h
      · rw [ih hup.2 h, List.append_assoc, List.singleton_append]
      · split at h
        · rename_i hrest
          cases h
          rw [List.isEmpty_iff.mp hrest]
        · cases h

theorem locate_resolved {disk : Disk} {name : PathName} (hname : Resolved name) {place : Place}
    (h : disk.locate name = .ok place) : place = name.parts := by
  unfold locate at h
  split at h
  · cases h
  · split at h
    · cases h
    · have hstart : disk.start name = [] := by
        rw [start, PathName.absolute, hname.root]
        rfl
      rw [hstart] at h
      cases hw : disk.walk [] name.parts with
      | error cause =>
        rw [hw] at h
        cases h
      | ok q =>
        rw [hw] at h
        cases h
        rw [walk_eq_append hname.parts hw, List.nil_append]

/-- Where a resolved name leads to, if it leads anywhere. -/
theorem find?_resolved {disk : Disk} {name : PathName} (hname : Resolved name) {node : Node}
    (h : disk.find? name = .ok (some node)) :
    disk.locate name = .ok name.parts ∧ disk.node? name.parts = some node := by
  unfold find? at h
  split at h
  · rename_i place hl
    obtain rfl := locate_resolved hname hl
    exact ⟨hl, Except.ok.inj h⟩
  · cases h
  · cases h

/-! ## Disks of one shape -/

/-- Nothing differs but the bytes of files. -/
structure SameShape (d d' : Disk) : Prop where
  current : d'.current = d.current
  kind : ∀ place, (d'.node? place).map Node.isFolder = (d.node? place).map Node.isFolder

theorem SameShape.refl (d : Disk) : SameShape d d := ⟨rfl, fun _ => rfl⟩

theorem SameShape.trans {d d' d'' : Disk} (h : SameShape d d') (h' : SameShape d' d'') :
    SameShape d d'' :=
  ⟨h'.current.trans h.current, fun place => (h'.kind place).trans (h.kind place)⟩

theorem SameShape.symm {d d' : Disk} (h : SameShape d d') : SameShape d' d :=
  ⟨h.current.symm, fun place => (h.kind place).symm⟩

section

variable {d d' : Disk}

theorem SameShape.node?_eq_none (h : SameShape d d') {place : Place} (hn : d.node? place = none) :
    d'.node? place = none := by
  have hkind := h.kind place
  rw [hn] at hkind
  exact Option.map_eq_none_iff.mp hkind

theorem SameShape.node?_folder (h : SameShape d d') {place : Place}
    (hn : d.node? place = some .folder) : d'.node? place = some .folder := by
  have hkind := h.kind place
  rw [hn] at hkind
  obtain ⟨node, hnode, hfolder⟩ := Option.map_eq_some_iff.mp hkind
  cases node with
  | folder => exact hnode
  | file bytes => cases hfolder

theorem SameShape.node?_file (h : SameShape d d') {place : Place} {bytes : Utf8.Bytes}
    (hn : d.node? place = some (.file bytes)) : ∃ bytes', d'.node? place = some (.file bytes') := by
  have hkind := h.kind place
  rw [hn] at hkind
  obtain ⟨node, hnode, hfile⟩ := Option.map_eq_some_iff.mp hkind
  cases node with
  | folder => cases hfile
  | file bytes' => exact ⟨bytes', hnode⟩

theorem SameShape.walk_eq (h : SameShape d d') (place : Place) (parts : List String) :
    d'.walk place parts = d.walk place parts := by
  induction parts generalizing place with
  | nil => rfl
  | cons part rest ih =>
    rw [walk, walk]
    cases hn : d.node? (place ++ [part]) with
    | none => rw [h.node?_eq_none hn, ih]
    | some node =>
      cases node with
      | folder => rw [h.node?_folder hn, ih, ih]
      | file bytes =>
        obtain ⟨bytes', hn'⟩ := h.node?_file hn
        rw [hn', ih]

theorem SameShape.locate_eq (h : SameShape d d') (p : PathName) : d'.locate p = d.locate p := by
  unfold locate start
  rw [h.walk_eq, h.current]

theorem SameShape.resolve_eq (h : SameShape d d') (p : PathName) : d'.resolve p = d.resolve p := by
  have hcurrent : d'.node? d.current = some .folder ↔ d.node? d.current = some .folder := by
    cases hn : d.node? d.current with
    | none => rw [h.node?_eq_none hn]
    | some node =>
      cases node with
      | folder => rw [h.node?_folder hn]
      | file bytes =>
        obtain ⟨bytes', hn'⟩ := h.node?_file hn
        rw [hn']
        simp
  unfold resolve currentName
  simp only [ne_eq, h.current, hcurrent]

end

/-! ## Overwriting -/

/-- The file at the place holds these bytes, and nothing else differs. -/
structure Overwritten (place : Place) (bytes : Utf8.Bytes) (d d' : Disk) : Prop where
  current : d'.current = d.current
  node : ∀ p, d'.node? p = if p = place then some (.file bytes) else d.node? p

theorem overwritten_self {d : Disk} {place : Place} {bytes : Utf8.Bytes}
    (h : d.node? place = some (.file bytes)) : Overwritten place bytes d d := by
  refine ⟨rfl, fun p => ?_⟩
  split
  · rename_i hp
    rw [hp, h]
  · rfl

theorem overwritten_put {d : Disk} {place : Place} (hplace : place ≠ []) (bytes : Utf8.Bytes) :
    Overwritten place bytes d (d.put place (.file bytes)) :=
  ⟨rfl, d.node?_put hplace (.file bytes)⟩

theorem Overwritten.sameShape {d d' : Disk} {place : Place} {old bytes : Utf8.Bytes}
    (h : Overwritten place bytes d d') (hold : d.node? place = some (.file old)) :
    SameShape d d' := by
  refine ⟨h.current, fun p => ?_⟩
  rw [h.node]
  split
  · rename_i hp
    rw [hp, hold]
    rfl
  · rfl

theorem Overwritten.node_self {d d' : Disk} {place : Place} {bytes : Utf8.Bytes}
    (h : Overwritten place bytes d d') : d'.node? place = some (.file bytes) := by
  rw [h.node, if_pos rfl]

theorem Overwritten.node_of_ne {d d' : Disk} {place p : Place} {bytes : Utf8.Bytes}
    (h : Overwritten place bytes d d') (hp : p ≠ place) : d'.node? p = d.node? p := by
  rw [h.node, if_neg hp]

/-! ## Source files -/

section

variable {d : Disk} {name : PathName} {bytes : Utf8.Bytes}

/-- The name of a file that is there. -/
structure FileAt (d : Disk) (name : PathName) (bytes : Utf8.Bytes) : Prop where
  located : d.locate name = .ok name.parts
  node : d.node? name.parts = some (.file bytes)

theorem fileAt_of_find? (hname : Resolved name) (h : d.find? name = .ok (some (.file bytes))) :
    FileAt d name bytes :=
  ⟨(find?_resolved hname h).1, (find?_resolved hname h).2⟩

/-- The file is found alike on a disk that has the same file there. -/
theorem FileAt.sameShape {d' : Disk} (h : FileAt d name bytes) (hshape : SameShape d d')
    (hnode : d'.node? name.parts = d.node? name.parts) : FileAt d' name bytes :=
  ⟨(hshape.locate_eq name).trans h.located, hnode.trans h.node⟩

section

variable (h : FileAt d name bytes) {guard : Guard} {refusal : OpenRefusal}

include h

theorem FileAt.read_eq (hopened : (guard name.parts).reading = none) :
    d.read name guard = .ok bytes := by
  unfold read
  rw [h.located]
  simp only [bind, Except.bind, h.node, hopened]

theorem FileAt.read_refused (hrefused : (guard name.parts).reading = some refusal) :
    d.read name guard = .error (.refused refusal name.toString) := by
  unfold read
  rw [h.located]
  simp only [bind, Except.bind, h.node, hrefused]

theorem FileAt.target_eq : d.target name = .ok name.parts := by
  unfold target
  rw [h.located]

theorem FileAt.write_eq (hopened : (guard name.parts).writing = none) (new : Utf8.Bytes) :
    d.write name new guard = .ok (d.put name.parts (.file new)) := by
  unfold write
  rw [h.target_eq]
  simp only [bind, Except.bind, h.node, hopened]

theorem FileAt.write_refused (hrefused : (guard name.parts).writing = some refusal)
    (new : Utf8.Bytes) : d.write name new guard = .error (.refused refusal name.toString) := by
  unfold write
  rw [h.target_eq]
  simp only [bind, Except.bind, h.node, hrefused]

theorem FileAt.readRaw_eq (hopened : (guard name.parts).reading = none) :
    d.readRaw name guard = (Utf8.decode bytes).mapError .decode := by
  unfold readRaw
  rw [h.read_eq hopened]
  rfl

theorem FileAt.readSource_eq (hopened : (guard name.parts).reading = none) :
    readSource d name guard =
      match Utf8.decode bytes with
      | .ok raw => .ok (raw.unifyBreaks, Text.endingOf raw)
      | .error fault => .error (.source (.read name.toString (.decode fault))) := by
  unfold readSource
  rw [h.readRaw_eq hopened]
  cases Utf8.decode bytes with
  | ok raw => rfl
  | error fault => rfl

theorem FileAt.readSource_refused (hrefused : (guard name.parts).reading = some refusal) :
    readSource d name guard =
      .error (.source (.read name.toString (.refused refusal name.toString))) := by
  unfold readSource readRaw
  rw [h.read_refused hrefused]
  rfl

theorem FileAt.writeSource_eq (hopened : (guard name.parts).writing = none) (text : Text)
    (ending : Text.Ending) :
    writeSource d name text ending guard =
      .ok (d.put name.parts (.file (Utf8.encode (Text.breakWith ending text)))) := by
  unfold writeSource
  rw [h.write_eq hopened]
  rfl

theorem FileAt.writeSource_refused (hrefused : (guard name.parts).writing = some refusal)
    (text : Text) (ending : Text.Ending) :
    writeSource d name text ending guard =
      .error (.source (.write name.toString (.refused refusal name.toString))) := by
  unfold writeSource
  rw [h.write_refused hrefused]
  rfl

end

end

end Disk
end TidyImports
