import TidyImports.Proofs.Disk
import TidyImports.Proofs.Data.Except

/-!
# Files that are written

A written file is found under its name again, whether it was there before or only its folder was:
the way to it leads through folders, and writing changes none of them.

* `Disk.enter`, `walk_snoc` — a way as the folders that it goes through and a last part;
* `Overwritten.locate_target` — a file is found at the place that it was written to;
* `read_write`, `exists_write` — what is written is read, and what is read can be written.
-/

namespace TidyImports
namespace Disk

/-! ## Ways through folders -/

/-- The folder that one part of a name leads to, when more parts follow. -/
def enter (disk : Disk) (place : Place) (part : String) : Except FileCause Place :=
  if part = ".." then .ok place.dropLast
  else if PathName.partTooLong part then .error .nameTooLong
  else
    match disk.node? (place ++ [part]) with
    | none => .error .missing
    | some .folder => .ok (place ++ [part])
    | some (.file _) => .error .notDirectory

section

variable {d d' : Disk} {bytes : Utf8.Bytes} {place folder : Place} {last : String}

theorem walk_snoc (disk : Disk) (place : Place) (front : List String) (last : String) :
    disk.walk place (front ++ [last]) =
      front.foldlM disk.enter place >>= fun folder => disk.walk folder [last] := by
  induction front generalizing place with
  | nil => rfl
  | cons part rest ih =>
    rw [List.cons_append, walk, List.foldlM_cons, enter]
    split
    · exact ih _
    · split
      · rfl
      · cases disk.node? (place ++ [part]) with
        | none => rfl
        | some node =>
          cases node with
          | folder => exact ih _
          | file bytes =>
            simp only
            rw [if_neg (by simp)]
            rfl

theorem enter_eq_ok_iff {part : String} : d.enter place part = .ok folder ↔
    (part = ".." ∧ place.dropLast = folder) ∨
      (part ≠ ".." ∧ PathName.partTooLong part = false ∧
        d.node? (place ++ [part]) = some .folder ∧ place ++ [part] = folder) := by
  rw [enter]
  by_cases hup : part = ".."
  · simp [hup]
  · rw [if_neg hup]
    cases hlong : PathName.partTooLong part with
    | true => simp [hup]
    | false =>
      cases hnode : d.node? (place ++ [part]) with
      | none => simp [hup]
      | some node =>
        cases node with
        | folder => simp [hup]
        | file bytes => simp [hup]

/-- The last part of a name may lead to a file as well. -/
theorem walk_part_eq_ok_iff : d.walk folder [last] = .ok place ↔
    (last = ".." ∧ folder.dropLast = place) ∨
      (last ≠ ".." ∧ PathName.partTooLong last = false ∧
        (∃ node, d.node? (folder ++ [last]) = some node) ∧ folder ++ [last] = place) := by
  rw [walk]
  by_cases hup : last = ".."
  · simp [hup, walk]
  · rw [if_neg hup]
    cases hlong : PathName.partTooLong last with
    | true => simp [hup]
    | false =>
      cases hnode : d.node? (folder ++ [last]) with
      | none => simp [hup]
      | some node =>
        cases node with
        | folder => simp [hup, walk]
        | file bytes => simp [hup]

theorem walk_eq_missing_iff : d.walk folder [last] = .error .missing ↔
    last ≠ ".." ∧ PathName.partTooLong last = false ∧ d.node? (folder ++ [last]) = none := by
  rw [walk]
  by_cases hup : last = ".."
  · simp [hup, walk]
  · rw [if_neg hup]
    cases hlong : PathName.partTooLong last with
    | true => simp
    | false =>
      cases hnode : d.node? (folder ++ [last]) with
      | none => simp [hup]
      | some node =>
        cases node with
        | folder => simp [walk]
        | file bytes => simp

/-- A part that leads to a file leads to no folder. -/
theorem enter_of_walk (h : d.walk place [last] = .ok folder) :
    d.enter place last = .ok folder ∨ d.enter place last = .error .notDirectory := by
  rcases walk_part_eq_ok_iff.mp h with hup | ⟨hup, hlong, ⟨node, hnode⟩, hfolder⟩
  · exact Or.inl (enter_eq_ok_iff.mpr (Or.inl hup))
  · cases node with
    | folder => exact Or.inl (enter_eq_ok_iff.mpr (Or.inr ⟨hup, hlong, hnode, hfolder⟩))
    | file bytes =>
      refine Or.inr ?_
      rw [enter, if_neg hup, if_neg (by simp [hlong]), hnode]

/-! ## Ways on a disk with one file overwritten -/

/-- Overwriting what is no folder keeps the way to it. -/
theorem Overwritten.enter_eq {start q : Place} {part : String} (h : Overwritten place bytes d d')
    (hnode : d.node? place ≠ some .folder) (henter : d.enter start part = .ok q) :
    d'.enter start part = .ok q := by
  rcases enter_eq_ok_iff.mp henter with hup | ⟨hup, hlong, hfolder, hq⟩
  · exact enter_eq_ok_iff.mpr (Or.inl hup)
  · have hne : start ++ [part] ≠ place := by
      rintro rfl
      exact hnode hfolder
    exact enter_eq_ok_iff.mpr (Or.inr ⟨hup, hlong, (h.node_of_ne hne).trans hfolder, hq⟩)

theorem Overwritten.foldlM_enter_eq {start q : Place} {front : List String}
    (h : Overwritten place bytes d d') (hnode : d.node? place ≠ some .folder)
    (hfront : front.foldlM d.enter start = .ok q) : front.foldlM d'.enter start = .ok q := by
  induction front generalizing start with
  | nil => exact hfront
  | cons part rest ih =>
    rw [List.foldlM_cons] at hfront ⊢
    obtain ⟨next, hnext, hrest⟩ := Except.bind_eq_ok_iff.mp hfront
    rw [h.enter_eq hnode hnext]
    exact ih hrest

theorem Overwritten.walk_last (h : Overwritten place bytes d d')
    (hlast : d.walk folder [last] = .ok place) : d'.walk folder [last] = .ok place := by
  rcases walk_part_eq_ok_iff.mp hlast with hup | ⟨hup, hlong, -, rfl⟩
  · exact walk_part_eq_ok_iff.mpr (Or.inl hup)
  · exact walk_part_eq_ok_iff.mpr (Or.inr ⟨hup, hlong, ⟨_, h.node_self⟩, rfl⟩)

theorem Overwritten.walk_eq {start : Place} {parts : List String}
    (h : Overwritten place bytes d d') (hnode : d.node? place ≠ some .folder)
    (hwalk : d.walk start parts = .ok place) : d'.walk start parts = .ok place := by
  rcases parts.eq_nil_or_concat with rfl | ⟨front, last, rfl⟩
  · exact hwalk
  · rw [List.concat_eq_append, walk_snoc] at hwalk ⊢
    obtain ⟨folder, hfolder, hlast⟩ := Except.bind_eq_ok_iff.mp hwalk
    rw [h.foldlM_enter_eq hnode hfolder]
    exact h.walk_last hlast

/-- A way that ends well and goes on to something missing goes through folders only. -/
theorem foldlM_enter_of_missing {start : Place} {front : List String}
    (hfront : d.walk start front = .ok folder)
    (hmissing : d.walk start (front ++ [last]) = .error .missing) :
    front.foldlM d.enter start = .ok folder ∧ d.walk folder [last] = .error .missing := by
  have henter : front.foldlM d.enter start = .ok folder := by
    rw [walk_snoc] at hmissing
    rcases front.eq_nil_or_concat with rfl | ⟨init, part, rfl⟩
    · exact hfront
    · rw [List.concat_eq_append] at hmissing ⊢
      rw [List.concat_eq_append, walk_snoc] at hfront
      obtain ⟨q, hq, hpart⟩ := Except.bind_eq_ok_iff.mp hfront
      have hinit : (init ++ [part]).foldlM d.enter start = d.enter q part := by
        rw [List.foldlM_append, hq]
        exact bind_pure (d.enter q part)
      rw [hinit] at hmissing ⊢
      rcases enter_of_walk hpart with hok | hfile
      · exact hok
      · rw [hfile] at hmissing
        cases hmissing
  rw [walk_snoc, henter] at hmissing
  exact ⟨henter, hmissing⟩

/-- A name of which the last part alone is missing leads to the file that is made there. -/
theorem Overwritten.walk_new {start : Place} {front : List String}
    (h : Overwritten (folder ++ [last]) bytes d d') (hfront : d.walk start front = .ok folder)
    (hmissing : d.walk start (front ++ [last]) = .error .missing) :
    d'.walk start (front ++ [last]) = .ok (folder ++ [last]) := by
  obtain ⟨henter, hlast⟩ := foldlM_enter_of_missing hfront hmissing
  obtain ⟨hup, hlong, hnone⟩ := walk_eq_missing_iff.mp hlast
  have hnode : d.node? (folder ++ [last]) ≠ some .folder := by
    rw [hnone]
    nofun
  rw [walk_snoc, h.foldlM_enter_eq hnode henter]
  exact walk_part_eq_ok_iff.mpr (Or.inr ⟨hup, hlong, ⟨_, h.node_self⟩, rfl⟩)

/-! ## Places -/

theorem locate_eq_ok_iff {p : PathName} :
    d.locate p = .ok place ↔
      p.hasNull = false ∧ p.tooLong = false ∧ d.walk (d.start p) p.parts = .ok place := by
  unfold locate
  cases p.hasNull with
  | true => exact iff_of_false nofun fun h => nomatch h.1
  | false =>
    cases p.tooLong with
    | true => exact iff_of_false nofun fun h => nomatch h.2.1
    | false => simp [Except.mapError_eq_ok_iff]

theorem locate_eq_missing_iff {p : PathName} {path : String} :
    d.locate p = .error (.open .missing path) ↔
      p.hasNull = false ∧ p.tooLong = false ∧ d.walk (d.start p) p.parts = .error .missing ∧
        p.toString = path := by
  unfold locate
  cases p.hasNull with
  | true => exact iff_of_false nofun fun h => nomatch h.1
  | false =>
    cases p.tooLong with
    | true => exact iff_of_false nofun fun h => nomatch h.2.1
    | false =>
      simp only [Bool.false_eq_true, if_false, Except.mapError_eq_error_iff, FileFault.open.injEq,
        true_and]
      constructor
      · rintro ⟨_, hwalk, rfl, hpath⟩
        exact ⟨hwalk, hpath⟩
      · rintro ⟨hwalk, hpath⟩
        exact ⟨.missing, hwalk, rfl, hpath⟩

/-- The place that a file is written to is the place that it is then found at. -/
theorem Overwritten.locate_target {p : PathName} (h : Overwritten place bytes d d')
    (hnode : d.node? place ≠ some .folder) (htarget : d.target p = .ok place) :
    d'.locate p = .ok place := by
  have hstart : d'.start p = d.start p := by rw [start, start, h.current]
  unfold target at htarget
  split at htarget
  · rename_i path last hlocate hlast
    obtain ⟨hnull, hlong, hmissing, -⟩ := locate_eq_missing_iff.mp hlocate
    obtain ⟨front, hparts⟩ := List.getLast?_eq_some_iff.mp hlast
    split at htarget
    · rename_i folder hfront
      cases htarget
      rw [hparts] at hmissing hfront
      rw [List.dropLast_concat] at hfront
      rw [locate_eq_ok_iff, hparts, hstart]
      exact ⟨hnull, hlong, h.walk_new hfront hmissing⟩
    · cases htarget
  · obtain ⟨hnull, hlong, hwalk⟩ := locate_eq_ok_iff.mp htarget
    rw [locate_eq_ok_iff, hstart]
    exact ⟨hnull, hlong, h.walk_eq hnode hwalk⟩

/-! ## Writing and reading -/

theorem write_eq_ok_iff {p : PathName} {guard : Guard} :
    d.write p bytes guard = .ok d' ↔ ∃ place, d.target p = .ok place ∧
      d.node? place ≠ some .folder ∧ (guard place).writing = none ∧
      d' = d.put place (.file bytes) := by
  unfold write
  rw [Except.bind_eq_ok_iff]
  refine exists_congr fun place => and_congr_right fun _ => ?_
  split
  · rename_i hfolder
    simp [hfolder]
  · rename_i hfolder
    rw [and_iff_right hfolder]
    cases (guard place).writing with
    | none => simp [eq_comm]
    | some cause => simp

/-- A file that was written is read as it was written. -/
theorem read_write {p : PathName} {guard : Guard} (h : d.write p bytes guard = .ok d') :
    d'.read p = .ok bytes := by
  obtain ⟨place, htarget, hnode, -, rfl⟩ := write_eq_ok_iff.mp h
  have hplace : place ≠ [] := by
    rintro rfl
    exact hnode rfl
  have hover := overwritten_put (d := d) hplace bytes
  unfold read
  rw [hover.locate_target hnode htarget]
  simp only [bind, Except.bind]
  rw [hover.node_self]
  rfl

/-- A file that can be read can be written, unless the system does not open it for that. -/
theorem exists_write {p : PathName} {old : Utf8.Bytes} {guard : Guard}
    (h : d.read p guard = .ok old) (hopened : ∀ place, (guard place).writing = none)
    (bytes : Utf8.Bytes) : ∃ d', d.write p bytes guard = .ok d' := by
  unfold read at h
  obtain ⟨place, hlocate, hnode⟩ := Except.bind_eq_ok_iff.mp h
  have htarget : d.target p = .ok place := by
    unfold target
    rw [hlocate]
  split at hnode
  · rename_i hfile
    exact ⟨_, write_eq_ok_iff.mpr ⟨place, htarget, by simp [hfile], hopened place, rfl⟩⟩
  · cases hnode
  · cases hnode

end

end Disk
end TidyImports
