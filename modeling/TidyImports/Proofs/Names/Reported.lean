import Mathlib.Data.List.Nodup
import Mathlib.Data.List.TakeDrop
import Mathlib.Data.List.TakeWhile
import TidyImports.Context
import TidyImports.Proofs.Data.Except
import TidyImports.Proofs.Session

/-!
# The undefined names that a linter reports

A diagnostic reports a name when it has the code for undefined names, or none, and its message says
so in the usual words (`Diagnostic.Reports`). `reportedNames` are all names of an answer.

* `Text.dropStart?_eq_some_iff`, `nameIn?_eq_some_iff`, `Diagnostic.name?_eq_some_iff` — reading the
  start of a text, a message and a diagnostic;
* `mem_dedup`, `nodup_dedup`, `mem_sortNames` — the same names, each once;
* `mem_reportedNames`, `nodup_reportedNames` — what `reportedNames` are;
* `undefinedSymbols_gives` — they are what comes of asking a linter that is a function.
-/

namespace TidyImports

/-! ## Messages -/

theorem Text.dropStart?_eq_some_iff {start text rest : Text} :
    dropStart? start text = some rest ↔ text = start ++ rest := by
  induction start generalizing text with
  | nil => simp [dropStart?]
  | cons c start ih =>
    cases text with
    | nil => simp [dropStart?]
    | cons d text =>
      rw [dropStart?]
      split
      · rename_i h
        subst h
        simp [ih]
      · rename_i h
        simp [Ne.symm h]

/-- A piece without a character, up to which a text is read. -/
theorem span_ne_append {c : Char} {piece : Text} (h : c ∉ piece) (rest : Text) :
    (piece ++ c :: rest).span (· ≠ c) = (piece, c :: rest) := by
  have hpiece : ∀ d ∈ piece, decide (d ≠ c) = true := fun d hd => by
    rw [decide_eq_true_eq]
    exact fun heq => h (heq ▸ hd)
  rw [List.span_eq_takeWhile_dropWhile, List.takeWhile_append_of_pos hpiece,
    List.dropWhile_append_of_pos hpiece]
  simp

theorem nameIn?_eq_some_iff {message : Text} {name : String} :
    nameIn? message = some name ↔
      name ≠ "" ∧ '`' ∉ name.toList ∧ ∃ rest, message = nameMark ++ (name.toList ++ '`' :: rest) := by
  constructor
  · intro h
    unfold nameIn? at h
    split at h
    · cases h
    · rename_i rest hrest
      split at h
      · rename_i c tail after hspan
        cases h
        rw [List.span_eq_takeWhile_dropWhile] at hspan
        obtain ⟨htake, hdrop⟩ := Prod.mk.inj hspan
        have hwhole := List.takeWhile_append_dropWhile (p := fun d => decide (d ≠ '`')) (l := rest)
        rw [htake, hdrop] at hwhole
        refine ⟨fun hempty => ?_, fun hmem => ?_, after, ?_⟩
        · have hnil := congrArg String.toList hempty
          rw [String.toList_ofList] at hnil
          cases hnil
        · rw [String.toList_ofList, ← htake] at hmem
          simpa using List.mem_takeWhile_imp hmem
        · rw [Text.dropStart?_eq_some_iff.mp hrest, String.toList_ofList, hwhole]
      · cases h
  · rintro ⟨hname, hfree, rest, rfl⟩
    rw [nameIn?, Text.dropStart?_eq_some_iff.mpr rfl]
    simp only [span_ne_append hfree]
    cases hchars : name.toList with
    | nil => exact absurd (String.toList_eq_nil_iff.mp hchars) hname
    | cons c tail =>
      simp only [Option.some.injEq]
      rw [← hchars, String.ofList_toList]

/-! ## Diagnostics -/

/-- The diagnostic says of this name that it is undefined. -/
def Diagnostic.Reports (d : Diagnostic) (name : String) : Prop :=
  (d.code = .null ∨ d.code = .text Config.undefinedRule) ∧ name ≠ "" ∧ '`' ∉ name.toList ∧
    ∃ rest, d.message = .text ("Undefined name `" ++ name ++ "`" ++ rest)

/-- The name that a diagnostic reports. -/
def Diagnostic.name? (d : Diagnostic) : Option String :=
  match d.concernsNames, d.message with
  | true, .text message => nameIn? message.toList
  | _, _ => none

/-- It may be about a name, but its message is no text. -/
def Diagnostic.mute (d : Diagnostic) : Bool :=
  match d.concernsNames, d.message with
  | false, _ | _, .text _ => false
  | _, _ => true

theorem Diagnostic.concernsNames_iff {d : Diagnostic} :
    d.concernsNames = true ↔ d.code = .null ∨ d.code = .text Config.undefinedRule := by
  unfold concernsNames
  split <;> simp_all

theorem Diagnostic.name?_eq_some_iff {d : Diagnostic} {name : String} :
    d.name? = some name ↔ d.Reports name := by
  have htext : ∀ rest : String, ("Undefined name `" ++ name ++ "`" ++ rest).toList =
      nameMark ++ (name.toList ++ '`' :: rest.toList) := by
    intro rest
    rw [String.toList_append, String.toList_append, String.toList_append, List.append_assoc,
      List.append_assoc]
    rfl
  have hmark : ∀ message : String,
      (∃ rest, message.toList = nameMark ++ (name.toList ++ '`' :: rest)) ↔
        ∃ rest, message = "Undefined name `" ++ name ++ "`" ++ rest := by
    intro message
    constructor
    · rintro ⟨rest, h⟩
      refine ⟨String.ofList rest, String.toList_inj.mp ?_⟩
      rw [h, htext, String.toList_ofList]
    · rintro ⟨rest, rfl⟩
      exact ⟨rest.toList, htext rest⟩
  unfold name? Reports
  rw [← concernsNames_iff]
  split
  · rename_i message hcode hmessage
    rw [nameIn?_eq_some_iff, hmark]
    simp [hcode, hmessage]
  · rename_i hno
    simp only [reduceCtorEq, false_iff, not_and]
    rintro hcode - - ⟨rest, hmessage⟩
    exact hno _ hcode hmessage

/-! ## Each name once -/

theorem mem_dedup {names : List String} {name : String} : name ∈ dedup names ↔ name ∈ names := by
  induction names with
  | nil => rfl
  | cons s rest ih =>
    rw [dedup, List.mem_cons, List.mem_cons, List.mem_filter, ih]
    by_cases h : name = s <;> simp [h]

theorem nodup_dedup (names : List String) : (dedup names).Nodup := by
  induction names with
  | nil => exact List.nodup_nil
  | cons s rest ih =>
    rw [dedup, List.nodup_cons]
    exact ⟨by simp, ih.filter _⟩

theorem mem_sortNames {names : List String} {name : String} :
    name ∈ sortNames names ↔ name ∈ names := by
  rw [sortNames, List.mem_mergeSort, mem_dedup]

/-- The names of an answer in the order of their first report, unless a message is no text. -/
def reportedNames (ds : List Diagnostic) : Except Failure (List String) :=
  if ds.any Diagnostic.mute then .error (.misuse .wrongKind)
  else .ok (dedup (ds.filterMap Diagnostic.name?))

theorem nodup_reportedNames {ds : List Diagnostic} {names : List String}
    (h : reportedNames ds = .ok names) : names.Nodup := by
  unfold reportedNames at h
  split at h
  · cases h
  · cases h
    exact nodup_dedup _

theorem mem_reportedNames {ds : List Diagnostic} {names : List String}
    (h : reportedNames ds = .ok names) {name : String} :
    name ∈ names ↔ ∃ d ∈ ds, d.Reports name := by
  unfold reportedNames at h
  split at h
  · cases h
  · cases h
    simp only [mem_dedup, List.mem_filterMap, Diagnostic.name?_eq_some_iff]

/-! ## Asking a linter -/

/-- From every state on, the linter answers by one function of text and configuration. -/
def Linter.Gives {σ : Type} (linter : Linter σ)
    (answer : Text → Config → Except Failure (List Diagnostic)) : Prop :=
  ∀ text config, (linter text config).Gives (answer text config)

/-- New names behind those that are there: a name counts where it comes first. -/
theorem append_dedup_cons (names : List String) (name : String) (rest : List String) :
    names ++ (dedup (name :: rest)).filter (· ∉ names) =
      (if name ∈ names then names else names ++ [name]) ++
        (dedup rest).filter (· ∉ if name ∈ names then names else names ++ [name]) := by
  rw [dedup]
  split
  · rename_i hin
    rw [List.filter_cons_of_neg (by simpa using hin), List.filter_filter]
    congr 1
    refine List.filter_congr fun s _ => ?_
    by_cases hs : s ∈ names
    · simp [hs]
    · have hne : s ≠ name := fun heq => hs (heq ▸ hin)
      simp [hs, hne]
  · rename_i hout
    rw [List.filter_cons_of_pos (by simpa using hout), List.filter_filter]
    simp only [List.append_assoc, List.singleton_append, List.mem_append, List.mem_singleton]
    congr 2
    refine List.filter_congr fun s _ => ?_
    by_cases hs : s ∈ names <;> simp [hs]

section

variable {σ : Type}

theorem collectNames_gives (names : List String) (ds : List Diagnostic) :
    (collectNames names ds : Run σ (List String)).Gives
      ((reportedNames ds).map fun new => names ++ new.filter (· ∉ names)) := by
  induction ds generalizing names with
  | nil =>
    have hnone : reportedNames [] = .ok [] := rfl
    rw [hnone]
    simp only [Except.map, List.filter_nil, List.append_nil]
    exact Run.gives_pure names
  | cons d rest ih =>
    -- a diagnostic without a name leaves those that are there
    have hskip : d.mute = false → d.name? = none →
        reportedNames (d :: rest) = reportedNames rest := by
      intro hmute hname
      simp [reportedNames, hmute, hname]
    rw [collectNames]
    cases hconcerns : d.concernsNames with
    | false =>
      have hmute : d.mute = false := by simp [Diagnostic.mute, hconcerns]
      have hname : d.name? = none := by simp [Diagnostic.name?, hconcerns]
      rw [hskip hmute hname]
      exact ih names
    | true =>
      simp only [Bool.not_true, Bool.false_eq_true, if_false]
      split
      · rename_i message hmessage
        have hmute : d.mute = false := by simp [Diagnostic.mute, hconcerns, hmessage]
        split
        · rename_i name hname
          have hd : d.name? = some name := by simp [Diagnostic.name?, hconcerns, hmessage, hname]
          have hmap : (reportedNames (d :: rest)).map (fun new => names ++ new.filter (· ∉ names)) =
              (reportedNames rest).map fun new =>
                (if name ∈ names then names else names ++ [name]) ++
                  new.filter (· ∉ if name ∈ names then names else names ++ [name]) := by
            unfold reportedNames
            rw [List.any_cons, hmute, Bool.false_or, List.filterMap_cons_some hd]
            split
            · rfl
            · simp only [Except.map, append_dedup_cons]
          rw [hmap]
          exact ih _
        · rename_i hname
          have hd : d.name? = none := by simp [Diagnostic.name?, hconcerns, hmessage, hname]
          rw [hskip hmute hd]
          split
          · exact Run.gives_bind (Run.gives_notify _) fun _ _ => ih names
          · exact ih names
      · rename_i hmessage
        have hmute : d.mute = true := by
          unfold Diagnostic.mute
          rw [hconcerns]
          split
          · rename_i h
            cases h
          · rename_i h _
            exact absurd h (hmessage _)
          · rfl
        have hall : reportedNames (d :: rest) = .error (.misuse .wrongKind) := by
          simp [reportedNames, hmute]
        rw [hall]
        exact Run.gives_fail _

/-- The names that a function reports for a text. -/
def undefinedIn (answer : Text → Config → Except Failure (List Diagnostic)) (text : Text) :
    Except Failure (List String) := do
  reportedNames (← answer text Config.undefinedNames)

theorem undefinedSymbols_gives {linter : Linter σ}
    {answer : Text → Config → Except Failure (List Diagnostic)} (h : linter.Gives answer)
    (text : Text) : (undefinedSymbols linter text).Gives (undefinedIn answer text) := by
  refine Run.gives_bind (h text _) fun ds _ => ?_
  have hcollect := collectNames_gives (σ := σ) [] ds
  cases hnames : reportedNames ds with
  | error f =>
    rw [hnames] at hcollect
    exact hcollect
  | ok names =>
    rw [hnames] at hcollect
    simpa [Except.map] using hcollect

theorem nodup_undefinedIn {answer : Text → Config → Except Failure (List Diagnostic)} {text : Text}
    {names : List String} (h : undefinedIn answer text = .ok names) : names.Nodup := by
  obtain ⟨ds, -, hds⟩ := Except.bind_eq_ok_iff.mp h
  exact nodup_reportedNames hds

theorem mem_undefinedIn {answer : Text → Config → Except Failure (List Diagnostic)} {text : Text}
    {names : List String} (h : undefinedIn answer text = .ok names) {name : String} :
    name ∈ names ↔
      ∃ ds, answer text Config.undefinedNames = .ok ds ∧ ∃ d ∈ ds, d.Reports name := by
  obtain ⟨ds, hanswer, hds⟩ := Except.bind_eq_ok_iff.mp h
  rw [mem_reportedNames hds]
  constructor
  · exact fun hname => ⟨ds, hanswer, hname⟩
  · rintro ⟨ds', hanswer', hname⟩
    rw [hanswer] at hanswer'
    cases hanswer'
    exact hname

end
end TidyImports
