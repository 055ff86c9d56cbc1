import Mathlib.Data.List.TakeDrop
import Mathlib.Data.List.TakeWhile
import TidyImports.Data.Toml.Reader

/-!
# Documents of one entry

A line `key = value` whose key is made of bare parts is a document of its own: it is read as the
tables that the parts name, one within the other, with the value in the innermost.

* `readKey_dotted` — the key is read back;
* `within_addNew` — what one entry makes of an empty table;
* `parse_entry`, `parse_entry_error` — the document is decided by how its value is read.
-/

namespace TidyImports.Toml

/-- Tables one within the other, named by a path, with a value in the innermost. -/
def nest (v : Value) : Path → Table
  | [] => []
  | [key] => [(key, v)]
  | key :: path => [(key, .table (nest v path))]

/-! ## Keys -/

/-- A part of a key that needs no quotes. -/
def Bare (part : String) : Prop := part.toList ≠ [] ∧ ∀ c ∈ part.toList, bareKey c = true

theorem bare_of_all {path : Path}
    (h : path.all (fun part => !part.toList.isEmpty && part.toList.all bareKey) = true) :
    ∀ part ∈ path, Bare part := by
  simpa [Bare] using h

def dotted : Path → Text
  | [] => []
  | key :: path => key.toList ++ path.flatMap fun k => '.' :: k.toList

theorem dotted_cons_cons (key next : String) (path : Path) :
    dotted (key :: next :: path) = key.toList ++ '.' :: dotted (next :: path) := rfl

theorem bareKey_plain {c : Char} (h : bareKey c = true) :
    c ≠ '"' ∧ c ≠ '\'' ∧ c ≠ '[' ∧ c ≠ '#' ∧ c ≠ '\n' ∧ c ≠ '\r' ∧ white c = false := by
  refine ⟨?_, ?_, ?_, ?_, ?_, ?_, ?_⟩
  case refine_7 =>
    rw [white, Bool.or_eq_false_iff, decide_eq_false_iff_not, decide_eq_false_iff_not]
    constructor
    all_goals
      rintro rfl
      revert h
      decide
  all_goals
    rintro rfl
    revert h
    decide

theorem Bare.eq_cons {part : String} (h : Bare part) :
    ∃ c rest, part.toList = c :: rest ∧ bareKey c = true := by
  obtain ⟨hne, hbare⟩ := h
  cases hpart : part.toList with
  | nil => exact absurd hpart hne
  | cons c rest =>
    rw [hpart] at hbare
    exact ⟨c, rest, rfl, hbare c List.mem_cons_self⟩

theorem dotted_eq_cons {path : Path} (hne : path ≠ []) (hbare : ∀ part ∈ path, Bare part) :
    ∃ c rest, dotted path = c :: rest ∧ bareKey c = true := by
  cases path with
  | nil => exact absurd rfl hne
  | cons part path =>
    obtain ⟨c, rest, hpart, hc⟩ := (hbare part List.mem_cons_self).eq_cons
    exact ⟨c, _, by rw [dotted, hpart]; rfl, hc⟩

theorem readKeyPart_bare {part : String} (h : Bare part) {c : Char} (hc : bareKey c = false)
    (after : Text) : readKeyPart (part.toList ++ c :: after) = .ok (part, c :: after) := by
  have hspan : (part.toList ++ c :: after).span bareKey = (part.toList, c :: after) := by
    rw [List.span_eq_takeWhile_dropWhile, List.takeWhile_append_of_pos h.2,
      List.dropWhile_append_of_pos h.2, List.takeWhile_cons_of_neg (by simp [hc]),
      List.dropWhile_cons_of_neg (by simp [hc]), List.append_nil]
  obtain ⟨d, rest, hpart, hd⟩ := h.eq_cons
  obtain ⟨hquote, hliteral, -⟩ := bareKey_plain hd
  rw [hpart, List.cons_append] at hspan ⊢
  unfold readKeyPart
  split
  · rename_i heq
    exact absurd (List.cons.inj heq).1 hquote
  · rename_i heq
    exact absurd (List.cons.inj heq).1 hliteral
  · rw [hspan]
    dsimp only
    rw [← hpart, String.ofList_toList]

/-- A part with a dot behind it is followed by more parts. -/
theorem readKey_dot {fuel : Nat} {text later rest : Text} {part : String} {parts : List String}
    (hpart : readKeyPart text = .ok (part, '.' :: later))
    (hparts : readKey fuel (skipWhite later) = .ok (parts, rest)) :
    readKey (fuel + 1) text = .ok (part :: parts, rest) := by
  have hskip : skipWhite ('.' :: later) = '.' :: later := rfl
  rw [readKey, hpart]
  simp only [bind, Except.bind, hskip, hparts]
  rfl

theorem readKey_dotted {path : Path} (hne : path ≠ []) (hbare : ∀ part ∈ path, Bare part)
    (after : Text) (fuel : Nat) (hfuel : path.length ≤ fuel) :
    readKey fuel (dotted path ++ ' ' :: '=' :: after) = .ok (path, '=' :: after) := by
  induction path generalizing fuel with
  | nil => exact absurd rfl hne
  | cons part path ih =>
    obtain ⟨fuel, rfl⟩ : ∃ n, fuel = n + 1 := ⟨fuel - 1, by simp at hfuel; omega⟩
    obtain ⟨hpart, hpath⟩ := List.forall_mem_cons.mp hbare
    cases path with
    | nil =>
      rw [dotted, List.flatMap_nil, List.append_nil, readKey, readKeyPart_bare hpart (by decide)]
      rfl
    | cons next path =>
      have hnext : next :: path ≠ [] := List.cons_ne_nil next path
      have hrest := ih hnext hpath fuel (by simpa using hfuel)
      obtain ⟨c, rest, hfirst, hc⟩ := dotted_eq_cons hnext hpath
      have hsolid : skipWhite (dotted (next :: path) ++ ' ' :: '=' :: after) =
          dotted (next :: path) ++ ' ' :: '=' :: after := by
        rw [hfirst, List.cons_append, skipWhite,
          List.dropWhile_cons_of_neg (by simp [bareKey_plain hc])]
      rw [dotted_cons_cons, List.append_assoc, List.cons_append]
      refine readKey_dot (readKeyPart_bare hpart (by decide) _) ?_
      rw [hsolid]
      exact hrest

/-! ## Tables -/

theorem within_addNew (lists : Bool) (v : Value) {path : Path} (hne : path ≠ []) :
    within lists (addNew (stem path) v) (parent path) [] = some (nest v path) := by
  induction path with
  | nil => exact absurd rfl hne
  | cons key path ih =>
    cases path with
    | nil => rfl
    | cons next path =>
      have hstem : stem (key :: next :: path) = stem (next :: path) := by
        simp [stem]
      have hparent : parent (key :: next :: path) = key :: parent (next :: path) := rfl
      rw [hstem, hparent, within, show Table.get? [] key = none from rfl]
      dsimp only
      rw [ih (by simp)]
      rfl

theorem set_empty (v : Value) {path : Path} (hne : path ≠ []) :
    ∃ d, Document.empty.set path v = .ok d ∧ d.root = nest v path := by
  have hopen : (Document.empty.containers path).any (isNamed []) = false := by
    rw [List.any_eq_false]
    intro front _
    simp [isNamed]
  have hclosed : isClosed [] (parent path) = false := rfl
  have hguard : ((Document.empty.containers path).any (isNamed Document.empty.marks) ||
      (!(Document.empty.header ++ parent path).isEmpty &&
        isClosed Document.empty.marks (Document.empty.header ++ parent path))) = false := by
    rw [Bool.or_eq_false_iff, Bool.and_eq_false_iff]
    exact ⟨hopen, Or.inr hclosed⟩
  have hroot : within true (addNew (stem path) v) (Document.empty.header ++ parent path)
      Document.empty.root = some (nest v path) := within_addNew true v hne
  unfold Document.set
  dsimp only
  rw [hguard, hroot]
  exact ⟨_, rfl, rfl⟩

/-! ## Documents -/

theorem joinBreaks_eq_self {text : Text} (h : '\r' ∉ text) : joinBreaks text = text := by
  fun_induction joinBreaks text with
  | case1 rest ih => simp at h
  | case2 c rest _ ih => rw [ih fun hmem => h (List.mem_cons_of_mem _ hmem)]
  | case3 => rfl

theorem length_le_dotted {path : Path} (hbare : ∀ part ∈ path, Bare part) :
    path.length ≤ (dotted path).length := by
  induction path with
  | nil => exact Nat.le_refl 0
  | cons part path ih =>
    obtain ⟨hpart, hpath⟩ := List.forall_mem_cons.mp hbare
    cases path with
    | nil =>
      have hlength : 0 < part.toList.length := List.length_pos_iff.mpr hpart.1
      rw [dotted, List.flatMap_nil, List.append_nil]
      exact hlength
    | cons next path =>
      have hrest := ih hpath
      rw [dotted_cons_cons, List.length_append, List.length_cons (a := part),
        List.length_cons (a := '.')]
      omega

theorem joinBreaks_entry {path : Path} (hbare : ∀ part ∈ path, Bare part) {text : Text}
    (h : '\r' ∉ text) : joinBreaks (dotted path ++ ' ' :: '=' :: ' ' :: text) =
      dotted path ++ ' ' :: '=' :: ' ' :: text := by
  have hpart : ∀ part ∈ path, '\r' ∉ part.toList := fun part hmem hbreak =>
    (bareKey_plain ((hbare part hmem).2 _ hbreak)).2.2.2.2.2.1 rfl
  have hkey : '\r' ∉ dotted path := by
    cases path with
    | nil => exact List.not_mem_nil
    | cons part path =>
      obtain ⟨hfirst, hrest⟩ := List.forall_mem_cons.mp hpart
      rw [dotted, List.mem_append, List.mem_flatMap]
      rintro (hmem | ⟨next, hnext, hmem⟩)
      · exact hfirst hmem
      · exact hrest next hnext (List.mem_of_ne_of_mem (by decide) hmem)
  refine joinBreaks_eq_self fun hmem => ?_
  obtain hmem | hmem := List.mem_append.mp hmem
  · exact hkey hmem
  · simp only [List.mem_cons] at hmem
    obtain heq | heq | heq | htext := hmem
    · cases heq
    · cases heq
    · cases heq
    · exact h htext

section Entry

variable {path : Path} (hne : path ≠ []) (hbare : ∀ part ∈ path, Bare part)
include hne hbare

theorem readStatement_entry (d : Document) {c : Char} (hc : white c = false) (text : Text) :
    readStatement d (dotted path ++ ' ' :: '=' :: ' ' :: c :: text) =
      (readValue (2 * text.length + 6) (c :: text)).bind fun (v, rest) =>
        (d.set path v).map fun d => (d, rest) := by
  have hfuel : path.length ≤ (dotted path ++ ' ' :: '=' :: ' ' :: c :: text).length := by
    have hpath := length_le_dotted hbare
    rw [List.length_append]
    omega
  have hkey := readKey_dotted hne hbare (' ' :: c :: text) _ hfuel
  have hskip : skipWhite (' ' :: c :: text) = c :: text := by
    rw [skipWhite, List.dropWhile_cons_of_pos (by decide), List.dropWhile_cons_of_neg (by simp [hc])]
  obtain ⟨first, rest, hfirst, hb⟩ := dotted_eq_cons hne hbare
  obtain ⟨-, -, hbracket, hmark, -⟩ := bareKey_plain hb
  rw [hfirst, List.cons_append] at hkey ⊢
  unfold readStatement
  split
  · rename_i heq
    exact absurd (List.cons.inj heq).1 hbracket
  · rename_i heq
    exact absurd (List.cons.inj heq).1 hbracket
  · rename_i heq
    exact absurd (List.cons.inj heq).1 hmark
  · rw [hkey]
    simp only [bind, Except.bind]
    rw [hskip]
    rfl

theorem readLines_dotted (fuel : Nat) (d : Document) (text : Text) :
    readLines (fuel + 1) d (dotted path ++ text) =
      (readStatement d (dotted path ++ text)).bind fun (d, rest) =>
        (skipComment (skipWhite rest)).bind fun
          | [] => .ok d
          | '\n' :: rest => readLines fuel d rest
          | _ => .error .malformed := by
  obtain ⟨first, rest, hfirst, hb⟩ := dotted_eq_cons hne hbare
  obtain ⟨-, -, -, -, hbreak, -, hwhite⟩ := bareKey_plain hb
  rw [hfirst, List.cons_append, readLines, skipWhite,
    List.dropWhile_cons_of_neg (by simp [hwhite])]
  split
  · rename_i heq
    cases heq
  · rename_i heq
    exact absurd (List.cons.inj heq).1 hbreak
  · rfl

/-- A value that ends its line is the value of the key. -/
theorem parse_entry {c : Char} (hc : white c = false) {text : Text} (hbreak : '\r' ∉ c :: text)
    {v : Value} (hread : readValue (2 * text.length + 6) (c :: text) = .ok (v, [])) :
    parse (dotted path ++ ' ' :: '=' :: ' ' :: c :: text) = .ok (nest v path) := by
  obtain ⟨d, hd, hroot⟩ := set_empty v hne
  unfold parse
  rw [joinBreaks_entry hbare hbreak]
  dsimp only
  rw [readLines_dotted hne hbare, readStatement_entry hne hbare _ hc, hread, ← hroot]
  simp only [Except.bind, hd]
  rfl

theorem parse_entry_error {c : Char} (hc : white c = false) {text : Text}
    (hbreak : '\r' ∉ c :: text) {fault : Fault}
    (hread : readValue (2 * text.length + 6) (c :: text) = .error fault) :
    parse (dotted path ++ ' ' :: '=' :: ' ' :: c :: text) = .error fault := by
  unfold parse
  rw [joinBreaks_entry hbare hbreak]
  dsimp only
  rw [readLines_dotted hne hbare, readStatement_entry hne hbare _ hc, hread]
  rfl

end Entry

end TidyImports.Toml
