import Mathlib.Data.List.TakeDrop
import Mathlib.Data.List.TakeWhile
import TidyImports.Data.Json.Reader
import TidyImports.Proofs.Data.Except
import TidyImports.Proofs.Data.Table
import TidyImports.Proofs.Number.Digits

/-!
# The form of what JSON gives

What reading a JSON text gives has a form of its own (`Value.Readable`): no date, no integer of too
many digits, and no key of a table twice, since a later value takes the place of an earlier one.

* `Value.Readable.put` — setting a key keeps the form;
* `Value.readable_of_obstacle?` — a value that can be written has it, but for keys that are there
  twice;
* `Json.readable_of_parse` — whatever is read has it.
-/

namespace TidyImports

/-- No date, no integer of too many digits, and no key of a table twice. -/
inductive Value.Readable : Value → Prop
  | null : Readable .null
  | bool (b : Bool) : Readable (.bool b)
  | int {n : Int} (short : Numeral.tooManyDigits n = false) : Readable (.int n)
  | float (x : Binary64) : Readable (.float x)
  | text (s : String) : Readable (.text s)
  | list {items : List Value} (each : ∀ v ∈ items, Readable v) : Readable (.list items)
  | table {entries : Table} (once : entries.keys.Nodup) (each : ∀ e ∈ entries, Readable e.2) :
      Readable (.table entries)

/-- No key of a table twice. -/
inductive Value.Keyed : Value → Prop
  | null : Keyed .null
  | bool (b : Bool) : Keyed (.bool b)
  | int (n : Int) : Keyed (.int n)
  | float (x : Binary64) : Keyed (.float x)
  | text (s : String) : Keyed (.text s)
  | moment (m : Moment) : Keyed (.moment m)
  | list {items : List Value} (each : ∀ v ∈ items, Keyed v) : Keyed (.list items)
  | table {entries : Table} (once : entries.keys.Nodup) (each : ∀ e ∈ entries, Keyed e.2) :
      Keyed (.table entries)

theorem Value.itemsObstacle?_eq_none {items : List Value} (h : itemsObstacle? items = none) :
    ∀ v ∈ items, v.obstacle? = none := by
  induction items with
  | nil => exact fun _ hmem => nomatch hmem
  | cons v rest ih =>
    rw [itemsObstacle?, Option.or_eq_none_iff] at h
    exact List.forall_mem_cons.mpr ⟨h.1, ih h.2⟩

theorem Value.entriesObstacle?_eq_none {entries : Table} (h : entriesObstacle? entries = none) :
    ∀ e ∈ entries, e.2.obstacle? = none := by
  induction entries with
  | nil => exact fun _ hmem => nomatch hmem
  | cons e rest ih =>
    obtain ⟨key, v⟩ := e
    rw [entriesObstacle?, Option.or_eq_none_iff] at h
    exact List.forall_mem_cons.mpr ⟨h.1, ih h.2⟩

theorem Value.readable_of_obstacle? {v : Value} (hkeyed : v.Keyed) (h : v.obstacle? = none) :
    v.Readable := by
  induction hkeyed with
  | null => exact .null
  | bool b => exact .bool b
  | int n =>
    rw [obstacle?] at h
    cases hlong : Numeral.tooManyDigits n with
    | false => exact .int hlong
    | true =>
      rw [hlong] at h
      cases h
  | float x => exact .float x
  | text s => exact .text s
  | moment m => cases h
  | list each ih =>
    rw [obstacle?] at h
    exact .list fun v hmem => ih v hmem (itemsObstacle?_eq_none h v hmem)
  | table once each ih =>
    rw [obstacle?] at h
    exact .table once fun e hmem => ih e hmem (entriesObstacle?_eq_none h e hmem)

theorem Value.Readable.put {t : Table} (h : (Value.table t).Readable) (key : String) {v : Value}
    (hv : v.Readable) : (Value.table (t.put key v)).Readable := by
  cases h with
  | table once each =>
    refine .table (Table.nodup_keys_put once key v) fun e he => ?_
    rcases Table.mem_put he with he | he
    · exact each e he
    · rw [he]
      exact hv

namespace Json

theorem isDigit_of_mem_wholeDigits {text whole rest : Text}
    (h : wholeDigits text = some (whole, rest)) : ∀ c ∈ whole, c.isDigit = true := by
  unfold wholeDigits at h
  split at h
  · cases h
    exact List.forall_mem_singleton.mpr rfl
  · split at h
    · cases h
    · rename_i heq
      cases h
      rw [List.span_eq_takeWhile_dropWhile] at heq
      intro c hc
      rw [← (Prod.mk.inj heq).1] at hc
      exact List.mem_takeWhile_imp hc

theorem readable_of_readNumber {text rest : Text} {v : Value}
    (h : readNumber text = .ok (v, rest)) : v.Readable := by
  rw [readNumber.eq_def] at h
  split at h
  rename_i negative body _
  split at h
  · split at h
    · cases h
      exact .float _
    · cases h
  · rename_i whole _ hwhole
    simp only at h
    split at h
    · split at h
      · cases h
      · rename_i hlen
        cases h
        refine .int (Numeral.tooManyDigits_of_length_le (isDigit_of_mem_wholeDigits hwhole)
          (Nat.not_lt.mp hlen) ?_)
        cases negative <;> simp
    · cases h
      exact .float _

theorem readable_of_readScalar {text rest : Text} {v : Value}
    (h : readScalar text = .ok (v, rest)) : v.Readable := by
  rw [readScalar] at h
  split at h
  · rename_i found hfound
    cases h
    obtain ⟨⟨word, w⟩, hmem, hword⟩ := List.exists_of_findSome?_eq_some hfound
    obtain ⟨rest', -, heq⟩ := Option.map_eq_some_iff.mp hword
    cases heq
    simp only [words, List.mem_cons, Prod.mk.injEq, List.not_mem_nil, or_false] at hmem
    rcases hmem with ⟨-, rfl⟩ | ⟨-, rfl⟩ | ⟨-, rfl⟩ | ⟨-, rfl⟩
    · exact .null
    · exact .bool true
    · exact .bool false
    · exact .float .nan
  · exact readable_of_readNumber h

/-- What is read with that much fuel has the form. -/
structure GivesReadable (fuel : Nat) : Prop where
  value : ∀ text v rest, readValue fuel text = .ok (v, rest) → v.Readable
  items : ∀ text vs rest, readItems fuel text = .ok (vs, rest) → ∀ v ∈ vs, v.Readable
  entries : ∀ before text es rest, (Value.table before).Readable →
    readEntries fuel before text = .ok (es, rest) → (Value.table es).Readable

section

variable {fuel : Nat} (ih : GivesReadable fuel)

include ih

theorem readable_of_readValue {text rest : Text} {v : Value}
    (h : readValue (fuel + 1) text = .ok (v, rest)) : v.Readable := by
  rw [readValue.eq_def] at h
  simp only at h
  split at h
  · obtain ⟨⟨s, r⟩, -, heq⟩ := Except.map_eq_ok_iff.mp h
    cases heq
    exact .text s
  · split at h
    · cases h
      exact .list (by simp)
    · obtain ⟨⟨vs, r⟩, hread, heq⟩ := Except.map_eq_ok_iff.mp h
      cases heq
      exact .list (ih.items _ vs r hread)
  · split at h
    · cases h
      exact .table List.nodup_nil (by simp)
    · obtain ⟨⟨es, r⟩, hread, heq⟩ := Except.map_eq_ok_iff.mp h
      cases heq
      exact ih.entries [] _ es r (.table List.nodup_nil (by simp)) hread
  · exact readable_of_readScalar h

theorem readable_of_readItems {text rest : Text} {vs : List Value}
    (h : readItems (fuel + 1) text = .ok (vs, rest)) : ∀ v ∈ vs, v.Readable := by
  rw [readItems] at h
  obtain ⟨⟨v, r⟩, hv, h⟩ := Except.bind_eq_ok_iff.mp h
  have hgood : v.Readable := ih.value text v r hv
  simp only at h
  split at h
  · cases h
    simpa using hgood
  · obtain ⟨⟨ws, r'⟩, hws, h⟩ := Except.bind_eq_ok_iff.mp h
    cases h
    exact List.forall_mem_cons.mpr ⟨hgood, ih.items _ ws _ hws⟩
  · cases h

theorem readable_of_readEntries {before es : Table} {text rest : Text}
    (hbefore : (Value.table before).Readable)
    (h : readEntries (fuel + 1) before text = .ok (es, rest)) : (Value.table es).Readable := by
  rw [readEntries.eq_def] at h
  simp only at h
  split at h
  · obtain ⟨⟨key, r⟩, -, h⟩ := Except.bind_eq_ok_iff.mp h
    simp only at h
    split at h
    · obtain ⟨⟨v, r'⟩, hv, h⟩ := Except.bind_eq_ok_iff.mp h
      have hput := hbefore.put key (ih.value _ v r' hv)
      simp only at h
      split at h
      · cases h
        exact hput
      · exact ih.entries _ _ es rest hput h
      · cases h
    · cases h
  · cases h

end

theorem givesReadable (fuel : Nat) : GivesReadable fuel := by
  induction fuel with
  | zero =>
    constructor
    · intro text v rest h
      cases h
    · intro text vs rest h
      cases h
    · intro before text es rest _ h
      cases h
  | succ fuel ih =>
    constructor
    · exact fun _ _ _ h => readable_of_readValue ih h
    · exact fun _ _ _ h => readable_of_readItems ih h
    · exact fun _ _ _ _ hbefore h => readable_of_readEntries ih hbefore h

/-- **Whatever is read** has the form of what reading gives. -/
theorem readable_of_parse {text : Text} {v : Value} (h : parse text = .ok v) : v.Readable := by
  obtain ⟨w, hw, rfl⟩ : ∃ w, readWhole text = .ok w ∧ w = v := by
    cases hread : readWhole text with
    | error e =>
      rw [parse, hread] at h
      cases h
    | ok w =>
      rw [parse, hread] at h
      cases h
      exact ⟨v, rfl, rfl⟩
  unfold readWhole at hw
  split at hw
  · cases hw
  · obtain ⟨⟨v, r⟩, hv, hw⟩ := Except.bind_eq_ok_iff.mp hw
    have hgood := (givesReadable _).value _ v r hv
    simp only at hw
    split at hw
    · cases hw
      exact hgood
    · cases hw

end Json
end TidyImports
