import Mathlib
import TidyImports.Command.Undefined
import TidyImports.Proofs.Format.Isolation
import TidyImports.Proofs.Names.Statements

/-!
# The names that a unit needs

A file needs the undefined names that have a statement, and a cell of a notebook only those of them
that the code up to it leaves undefined as well. A linter that is a function decides which these
are.

* `cellsThrough_eq_codeThrough` — the text that a cell is judged by: the code before it and its own;
* `narrow` — one answer cut down by another, which is not asked for where there is nothing to cut;
* `analysis` — what both analyses of a unit have in common, with `analysis_alone`, `analysis_cell`
  and `analysis_misplaced` for the units that there are;
* `effectiveSymbols_cell`, `undefinedNames_cell` — the answers of both for a cell;
* `effectiveSymbols_finds` — the names to import for a unit, as sets;
* `effectiveSymbols_of_undefinedNames` — what the list of all undefined names of a unit says of the
  names and statements to import for it.
-/

namespace TidyImports

/-! ## The code up to a cell -/

/-- The masked texts of the code before a cell, and a text in the place of the cell. -/
def codeThrough (cells : List Cell) (i : Nat) (text : Text) : Text :=
  Text.unlines (((cells.take i).filter Cell.isCode).map (fun c => masked c.text) ++ [text])

/-- Only the cell at the index gives way to the text. -/
theorem cellTexts_take {n : Int} {index : Int} {cells : List Cell} {k : Nat} (hk : k < cells.length)
    (hindex : index = n + k) (text : Text) :
    cellTexts index text n (cells.take (k + 1)) =
      ((cells.take k).filter Cell.isCode).map (fun c => masked c.text) ++ [text] := by
  induction k generalizing n cells with
  | zero =>
    cases cells with
    | nil => cases hk
    | cons c rest =>
      rw [List.take_succ_cons, cellTexts, if_pos (by omega)]
      rfl
  | succ k ih =>
    cases cells with
    | nil => cases hk
    | cons c rest =>
      have hrest := ih (n := n + 1) (Nat.lt_of_succ_lt_succ hk) (by omega)
      rw [List.take_succ_cons, cellTexts, if_neg (by omega), hrest, List.take_succ_cons]
      cases hcode : c.isCode with
      | true => simp [hcode]
      | false => simp [hcode]

theorem cellsThrough_eq_codeThrough {cells : List Cell} {i : Nat} (hi : i < cells.length)
    (text : Text) : cellsThrough cells i text = codeThrough cells i text := by
  have hcount : countThrough cells.length i = i + 1 := by
    unfold countThrough
    simp only
    rw [if_neg (by omega)]
    omega
  rw [cellsThrough, codeThrough, hcount, cellTexts_take hi (by omega)]

/-! ## Where a unit stands -/

/-- The unit is a cell, and its notebook is missing or does not hold it. -/
def UnitContext.Misplaced (context : UnitContext) : Prop :=
  ∃ i, context.index = some i ∧
    ∀ cells, context.cells = some cells → i < 0 ∨ (cells.length : Int) ≤ i

/-- A unit that is not misplaced stands by itself, or in a notebook that holds it. -/
theorem UnitContext.misplaced_or (context : UnitContext) :
    context.Misplaced ∨ context.index = none ∨
      ∃ (cells : List Cell) (i : Nat), context = ⟨some cells, some (i : Int)⟩ ∧ i < cells.length := by
  obtain ⟨cells, index⟩ := context
  cases index with
  | none => exact Or.inr (Or.inl rfl)
  | some i =>
    cases cells with
    | none => exact Or.inl ⟨i, rfl, nofun⟩
    | some cells =>
      by_cases hi : 0 ≤ i ∧ i < cells.length
      · obtain ⟨n, rfl⟩ := Int.eq_ofNat_of_zero_le hi.1
        exact Or.inr (Or.inr ⟨cells, n, rfl, by omega⟩)
      · refine Or.inl ⟨i, rfl, ?_⟩
        rintro _ ⟨⟩
        omega

theorem check_of_misplaced {context : UnitContext} (h : context.Misplaced) :
    ∃ fault, context.check = .error (.context fault) := by
  obtain ⟨i, hindex, hout⟩ := h
  unfold UnitContext.check
  split
  · exact ⟨_, rfl⟩
  · rename_i cells hcells
    rw [hindex]
    simp only
    rw [if_neg (by have := hout cells hcells; omega)]
    exact ⟨_, rfl⟩

/-! ## Two answers -/

/-- The names of the first answer that the second has as well. Where the first has none, the second
is not asked for. -/
def narrow (first second : Except Failure (List String)) : Except Failure (List String) := do
  let names ← first
  if names.isEmpty then pure names
  else do
    let others ← second
    pure (names.filter (· ∈ others))

theorem narrow_of_nil (second : Except Failure (List String)) : narrow (.ok []) second = .ok [] :=
  rfl

theorem narrow_ok (names others : List String) :
    narrow (.ok names) (.ok others) = .ok (names.filter (· ∈ others)) := by
  cases names with
  | nil => rfl
  | cons name rest => rfl

theorem narrow_error {names : List String} (h : names ≠ []) (f : Failure) :
    narrow (.ok names) (.error f) = .error f := by
  cases names with
  | nil => exact absurd rfl h
  | cons name rest => rfl

theorem narrow_eq_ok_iff {first second : Except Failure (List String)} {found : List String} :
    narrow first second = .ok found ↔ ∃ names, first = .ok names ∧
      (names = [] ∧ found = [] ∨ ∃ others, second = .ok others ∧ found = names.filter (· ∈ others)) := by
  cases first with
  | error f => simp [narrow, bind, Except.bind]
  | ok names =>
    cases names with
    | nil => simp [narrow_of_nil, eq_comm]
    | cons name rest =>
      cases second with
      | error f => simp [narrow_error]
      | ok others => simp [narrow_ok, eq_comm]

/-- Names can be left out of both answers before or after one is cut down by the other. -/
theorem narrow_map_filter {first second : Except Failure (List String)} {found : List String}
    (h : narrow first second = .ok found) (p : String → Bool) :
    narrow (first.map (·.filter p)) (second.map (·.filter p)) = .ok (found.filter p) := by
  obtain ⟨names, rfl, ⟨rfl, rfl⟩ | ⟨others, rfl, rfl⟩⟩ := narrow_eq_ok_iff.mp h
  · rfl
  · simp only [Except.map, narrow_ok, List.filter_filter, Except.ok.injEq]
    refine List.filter_congr fun name _ => ?_
    by_cases hp : p name = true <;> simp [hp]

/-! ## Both analyses -/

/-- An analysis that asks for the names of the unit and, where these are some of a cell, also for
those of the code up to it; `note` is told of both. -/
def analysis {σ : Type} (ask : Text → Run σ (List String))
    (note : Int → List String → List String → Run σ Unit) (text : Text) (context : UnitContext) :
    Run σ (List String) := do
  if !context.isCell then ask text
  else
    let (cells, index) ← Run.ofExcept context.check
    let alone ← ask text
    if alone.isEmpty then pure alone
    else
      let inOrder ← ask (cellsThrough cells index text)
      note index alone inOrder
      pure (alone.filter (· ∈ inOrder))

section

variable {σ : Type} (linter : Linter σ) (map : ImportMap)

theorem effectiveSymbols_eq_analysis :
    effectiveSymbols linter map = analysis (resolvable linter map)
      fun index alone inOrder => Run.notify (.compared index alone inOrder) :=
  rfl

theorem undefinedNames_eq_analysis :
    undefinedNames linter = analysis (undefinedSymbols linter) fun _ _ _ => pure () :=
  rfl

theorem analysis_misplaced {context : UnitContext} (hout : context.Misplaced) :
    ∃ fault, ∀ (ask : Text → Run σ (List String)) note (text : Text),
      analysis ask note text context = Run.fail (.context fault) := by
  obtain ⟨fault, hcheck⟩ := check_of_misplaced hout
  obtain ⟨i, hindex, -⟩ := hout
  have hcell : context.isCell = true := by rw [UnitContext.isCell, hindex]; rfl
  refine ⟨fault, fun ask note text => ?_⟩
  rw [analysis, hcell, hcheck]
  rfl

variable (ask : Text → Run σ (List String)) (note : Int → List String → List String → Run σ Unit)
  (text : Text)

theorem analysis_alone {context : UnitContext} (halone : context.index = none) :
    analysis ask note text context = ask text := by
  have hcell : context.isCell = false := by rw [UnitContext.isCell, halone]; rfl
  rw [analysis, hcell]
  rfl

theorem analysis_cell {cells : List Cell} {i : Nat} (hi : i < cells.length) :
    analysis ask note text ⟨some cells, some (i : Int)⟩ = (do
      let alone ← ask text
      if alone.isEmpty then pure alone
      else
        let inOrder ← ask (codeThrough cells i text)
        note i alone inOrder
        pure (alone.filter (· ∈ inOrder))) := by
  rw [analysis, check_cell hi, ← cellsThrough_eq_codeThrough hi]
  rfl

variable {ask note}

theorem analysis_cell_gives {answer : Text → Except Failure (List String)}
    (hask : ∀ asked, (ask asked).Gives (answer asked))
    (hnote : ∀ index alone inOrder, (note index alone inOrder).Gives (.ok ())) {cells : List Cell}
    {i : Nat} (hi : i < cells.length) :
    (analysis ask note text ⟨some cells, some (i : Int)⟩).Gives
      (narrow (answer text) (answer (codeThrough cells i text))) := by
  rw [analysis_cell ask note text hi]
  refine Run.gives_bind (hask text) fun names _ => ?_
  split
  · exact Run.gives_pure names
  · refine Run.gives_bind (hask _) fun others _ => ?_
    exact Run.gives_bind_ok (hnote _ _ _) (Run.gives_pure _)

end

section

variable {σ : Type} {linter : Linter σ} {answer : Text → Config → Except Failure (List Diagnostic)}
  (h : linter.Gives answer) (map : ImportMap) (text : Text)

/-- The names that a function reports for a text and that have a statement. -/
def resolvableIn (answer : Text → Config → Except Failure (List Diagnostic)) (map : ImportMap)
    (text : Text) : Except Failure (List String) :=
  (undefinedIn answer text).map (·.filter map.has)

include h

theorem resolvable_gives : (resolvable linter map text).Gives (resolvableIn answer map text) := by
  have hgives := Run.gives_bind (undefinedSymbols_gives h text)
    fun names _ => Run.gives_pure (σ := σ) (names.filter map.has)
  unfold resolvableIn
  cases hnames : undefinedIn answer text with
  | error f =>
    rw [hnames] at hgives
    exact hgives
  | ok names =>
    rw [hnames] at hgives
    exact hgives

theorem effectiveSymbols_alone {context : UnitContext} (halone : context.index = none) :
    (effectiveSymbols linter map text context).Gives (resolvableIn answer map text) := by
  rw [effectiveSymbols_eq_analysis, analysis_alone _ _ text halone]
  exact resolvable_gives h map text

theorem effectiveSymbols_cell {cells : List Cell} {i : Nat} (hi : i < cells.length) :
    (effectiveSymbols linter map text ⟨some cells, some (i : Int)⟩).Gives
      (narrow (resolvableIn answer map text)
        (resolvableIn answer map (codeThrough cells i text))) :=
  analysis_cell_gives text (resolvable_gives h map) (fun _ _ _ => Run.gives_notify _) hi

theorem undefinedNames_alone {context : UnitContext} (halone : context.index = none) :
    (undefinedNames linter text context).Gives (undefinedIn answer text) := by
  rw [undefinedNames_eq_analysis, analysis_alone _ _ text halone]
  exact undefinedSymbols_gives h text

theorem undefinedNames_cell {cells : List Cell} {i : Nat} (hi : i < cells.length) :
    (undefinedNames linter text ⟨some cells, some (i : Int)⟩).Gives
      (narrow (undefinedIn answer text) (undefinedIn answer (codeThrough cells i text))) :=
  analysis_cell_gives text (undefinedSymbols_gives h) (fun _ _ _ => Run.gives_pure ()) hi

end

section

variable {σ : Type} (linter : Linter σ) (map : ImportMap) (text : Text) {context : UnitContext}
  (hout : context.Misplaced) (s : Session σ)

include hout

theorem effectiveSymbols_misplaced :
    ∃ fault, (effectiveSymbols linter map text context).outcome s = (.error (.context fault), s) := by
  obtain ⟨fault, hfail⟩ := analysis_misplaced (σ := σ) hout
  refine ⟨fault, ?_⟩
  rw [effectiveSymbols_eq_analysis, hfail]
  rfl

theorem undefinedNames_misplaced :
    ∃ fault, (undefinedNames linter text context).outcome s = (.error (.context fault), s) := by
  obtain ⟨fault, hfail⟩ := analysis_misplaced (σ := σ) hout
  refine ⟨fault, ?_⟩
  rw [undefinedNames_eq_analysis, hfail]
  rfl

end

/-! ## The names to import -/

section

variable (answer : Text → Config → Except Failure (List Diagnostic)) (map : ImportMap)

/-- The name is reported for the text and has a statement. -/
def Resolvable (text : Text) (name : String) : Prop :=
  (∃ ds, answer text Config.undefinedNames = .ok ds ∧ ∃ d ∈ ds, d.Reports name) ∧
    map.has name = true

/-- The list holds each of the names once, and no other. -/
def Finds (r : Except Failure (List String)) (wanted : String → Prop) : Prop :=
  ∃ found, r = .ok found ∧ found.Nodup ∧ ∀ name, name ∈ found ↔ wanted name

variable {answer map}

theorem noting_gives : (Linter.noting answer).Gives answer := by
  intro text config s
  simp only [Linter.noting, Run.outcome_bind, Run.outcome_step, Run.outcome_ofExcept]

theorem resolvableIn_finds (map : ImportMap) {text : Text} {names : List String}
    (h : undefinedIn answer text = .ok names) :
    resolvableIn answer map text = .ok (names.filter map.has) ∧
      (names.filter map.has).Nodup ∧
        ∀ name, name ∈ names.filter map.has ↔ Resolvable answer map text name := by
  refine ⟨by rw [resolvableIn, h]; rfl, (nodup_undefinedIn h).filter _, fun name => ?_⟩
  rw [List.mem_filter, mem_undefinedIn h, Resolvable]

theorem resolvableIn_error {text : Text} {f : Failure} (h : undefinedIn answer text = .error f) :
    resolvableIn answer map text = .error f := by
  rw [resolvableIn, h]
  rfl

/-- A cell needs the names that both texts leave undefined. Whether the second is asked for makes no
difference where it has an answer. -/
theorem narrow_finds {text through : Text} {names : List String}
    (h : undefinedIn answer text = .ok names)
    (hsecond : (∀ name, ¬ Resolvable answer map text name) ∨
      ∃ others, undefinedIn answer through = .ok others) :
    Finds (narrow (resolvableIn answer map text) (resolvableIn answer map through)) fun name =>
      Resolvable answer map text name ∧ Resolvable answer map through name := by
  obtain ⟨hfirst, honce, hmem⟩ := resolvableIn_finds map h
  rw [hfirst]
  rcases hsecond with hnone | ⟨others, hothers⟩
  · have hnil : names.filter map.has = [] :=
      List.eq_nil_iff_forall_not_mem.mpr fun name hname => hnone name ((hmem name).mp hname)
    rw [hnil, narrow_of_nil]
    exact ⟨[], rfl, List.nodup_nil, fun name => iff_of_false (by simp) fun hn => hnone name hn.1⟩
  · obtain ⟨hthrough, -, hmem'⟩ := resolvableIn_finds map hothers
    rw [hthrough, narrow_ok]
    refine ⟨_, rfl, honce.filter _, fun name => ?_⟩
    rw [List.mem_filter, decide_eq_true_eq, hmem, hmem']

/-- **The names to import.** A misplaced cell is refused and nothing is asked. A unit by itself
needs the resolvable names of its text, and a cell those of its text that are also resolvable in the
code up to it; where its text has none, the code up to it is not asked about. -/
theorem effectiveSymbols_finds (answer : Text → Config → Except Failure (List Diagnostic))
    (map : ImportMap) (text : Text) (context : UnitContext) (s : Session (List (Text × Config))) :
    let reached := (effectiveSymbols (.noting answer) map text context).outcome s
    (context.Misplaced → ∃ fault, reached = (.error (.context fault), s)) ∧
      (¬ context.Misplaced → ∀ f, undefinedIn answer text = .error f → reached.1 = .error f) ∧
      ∀ names, undefinedIn answer text = .ok names →
        (context.index = none → Finds reached.1 (Resolvable answer map text)) ∧
        ∀ (cells : List Cell) (i : Nat), context = ⟨some cells, some (i : Int)⟩ → i < cells.length →
          ((∀ name, ¬ Resolvable answer map text name) ∨
              (∃ others, undefinedIn answer (codeThrough cells i text) = .ok others) →
            Finds reached.1 fun name => Resolvable answer map text name ∧
              Resolvable answer map (codeThrough cells i text) name) ∧
          ((∃ name, Resolvable answer map text name) →
            ∀ f, undefinedIn answer (codeThrough cells i text) = .error f →
              reached.1 = .error f) := by
  have hcell : ∀ (cells : List Cell) (i : Nat), context = ⟨some cells, some (i : Int)⟩ →
      i < cells.length → ((effectiveSymbols (.noting answer) map text context).outcome s).1 =
        narrow (resolvableIn answer map text)
          (resolvableIn answer map (codeThrough cells i text)) := by
    rintro cells i rfl hi
    exact effectiveSymbols_cell noting_gives map text hi s
  refine ⟨fun hout => effectiveSymbols_misplaced _ map text hout s, ?_, ?_⟩
  · intro hplaced f hf
    rcases context.misplaced_or with hout | halone | ⟨cells, i, hcontext, hi⟩
    · exact absurd hout hplaced
    · rw [effectiveSymbols_alone noting_gives map text halone s, resolvableIn_error hf]
    · rw [hcell cells i hcontext hi, resolvableIn_error hf]
      rfl
  · intro names hnames
    obtain ⟨hfirst, honce, hmem⟩ := resolvableIn_finds map hnames
    refine ⟨fun halone => ?_, fun cells i hcontext hi => ⟨fun hsecond => ?_, ?_⟩⟩
    · rw [effectiveSymbols_alone noting_gives map text halone s]
      exact ⟨_, hfirst, honce, hmem⟩
    · rw [hcell cells i hcontext hi]
      exact narrow_finds hnames hsecond
    · rintro ⟨name, hname⟩ f hf
      rw [hcell cells i hcontext hi, hfirst, resolvableIn_error hf]
      exact narrow_error (List.ne_nil_of_mem ((hmem name).mpr hname)) f

end

/-- Says of a name that it is undefined. -/
def undefinedName (name : String) : Diagnostic :=
  { code := .text Config.undefinedRule, message := .text ("Undefined name `" ++ name ++ "`") }

/-- Reports three names for a cell, and two of them also with the code before it. -/
def secondCellNames (text : Text) (_ : Config) : Except Failure (List Diagnostic) :=
  if text = ['x'] then .ok [undefinedName "np", undefinedName "pd", undefinedName "foo"]
  else .ok [undefinedName "foo", undefinedName "pd"]

def shortNames : ImportMap :=
  [(.text "np", [.text "import numpy as np"]), (.text "pd", [.text "import pandas as pd"])]

/-- The second of two cells of code. -/
def secondCell : UnitContext := ⟨some [⟨"code", ['y']⟩, ⟨"code", ['x']⟩], some (1 : Nat)⟩

theorem effectiveSymbols_finds_second :
    let reached :=
      (effectiveSymbols (.noting secondCellNames) shortNames ['x'] secondCell).outcome (.start [])
    reached.1 = .ok ["pd"] ∧ Finds reached.1 fun name =>
      Resolvable secondCellNames shortNames ['x'] name ∧
        Resolvable secondCellNames shortNames ['y', '\n', 'x'] name := by
  refine ⟨by cbv, ?_⟩
  obtain ⟨-, -, hfound⟩ := effectiveSymbols_finds secondCellNames shortNames ['x'] secondCell
    (.start [])
  obtain ⟨-, hcell⟩ := hfound ["np", "pd", "foo"] (by cbv)
  exact (hcell [⟨"code", ['y']⟩, ⟨"code", ['x']⟩] 1 rfl (by decide)).1
    (Or.inr ⟨["foo", "pd"], by cbv⟩)

/-! ## Two analyses of one unit -/

section

variable {σ : Type} {linter : Linter σ} {answer : Text → Config → Except Failure (List Diagnostic)}

/-- Answers by a function of text and configuration, which may refuse. -/
def Linter.ofFunction (answer : Text → Config → Except Failure (List Diagnostic)) : Linter σ :=
  fun text config => Run.ofExcept (answer text config)

theorem ofFunction_gives (answer : Text → Config → Except Failure (List Diagnostic)) :
    (Linter.ofFunction answer : Linter σ).Gives answer :=
  fun text config => Run.gives_ofExcept (answer text config)

/-- The names to import are those of all undefined names that have a statement. -/
theorem effectiveSymbols_gives (h : linter.Gives answer) (map : ImportMap) {text : Text}
    {context : UnitContext} {s t : Session σ} {names : List String}
    (hnames : (undefinedNames linter text context).outcome s = (.ok names, t)) :
    (undefinedNames linter text context).Gives (.ok names) ∧ names.Nodup ∧
      (effectiveSymbols linter map text context).Gives (.ok (names.filter map.has)) := by
  rcases context.misplaced_or with hout | halone | ⟨cells, i, rfl, hi⟩
  · obtain ⟨fault, hfault⟩ := undefinedNames_misplaced linter text hout s
    rw [hfault] at hnames
    cases hnames
  · have hgives := undefinedNames_alone h text halone
    have heq : undefinedIn answer text = .ok names := by rw [← hgives s, hnames]
    have hsymbols := effectiveSymbols_alone h map text halone
    rw [resolvableIn, heq] at hsymbols
    rw [heq] at hgives
    exact ⟨hgives, nodup_undefinedIn heq, hsymbols⟩
  · have hgives := undefinedNames_cell h text hi
    have heq : narrow (undefinedIn answer text) (undefinedIn answer (codeThrough cells i text)) =
        .ok names := by rw [← hgives s, hnames]
    have hsymbols := effectiveSymbols_cell h map text hi
    rw [resolvableIn, resolvableIn, narrow_map_filter heq] at hsymbols
    rw [heq] at hgives
    obtain ⟨first, hfirst, ⟨-, rfl⟩ | ⟨others, -, rfl⟩⟩ := narrow_eq_ok_iff.mp heq
    · exact ⟨hgives, List.nodup_nil, hsymbols⟩
    · exact ⟨hgives, (nodup_undefinedIn hfirst).filter _, hsymbols⟩

theorem effectiveImports_gives {map : ImportMap} {text : Text} {context : UnitContext}
    {names : List String} (h : (effectiveSymbols linter map text context).Gives (.ok names)) :
    (effectiveImports linter map text context).Gives (.ok (importsFor names map)) :=
  Run.gives_bind_ok h (Run.gives_pure _)

/-- The rows of one unit. -/
theorem nameRows_gives {ρ : Type} {linter : Linter (World ρ)} (map : ImportMap) {raw : Text}
    {context : UnitContext} {names : List String} (cell : Option Int)
    (h : (undefinedNames linter (masked raw) context).Gives (.ok names)) :
    (Command.nameRows linter map [(cell, raw, context)]).Gives
      (.ok (names.map fun name => ⟨cell, name, map.statements name⟩)) := by
  refine Run.gives_bind_ok h ?_
  refine Run.gives_bind_ok (Run.gives_pure []) ?_
  rw [List.append_nil]
  exact Run.gives_pure _

end

/-- **Two analyses of one unit.** Where the list of all undefined names of a unit can be made, it
has no name twice, and the names to be imported are those in it that have a statement. The
statements for them are those of its rows, none twice. -/
theorem effectiveSymbols_of_undefinedNames {ρ : Type} {linter : Linter (World ρ)}
    {answer : Text → Config → Except Failure (List Diagnostic)} (h : linter.Gives answer)
    (map : ImportMap) {text : Text} {context : UnitContext} {s t : Session (World ρ)}
    {names : List String}
    (hnames : (undefinedNames linter text context).outcome s = (.ok names, t)) (cell : Option Int) :
    let rows : List NameRow := names.map fun name => ⟨cell, name, map.statements name⟩
    names.Nodup ∧ (effectiveSymbols linter map text context).Gives (.ok (names.filter map.has)) ∧
      (∀ raw, masked raw = text →
        (Command.nameRows linter map [(cell, raw, context)]).Gives (.ok rows)) ∧
      ∃ imports, (effectiveImports linter map text context).Gives (.ok imports) ∧
        (∀ v ∈ imports, ∃ row ∈ rows, v ∈ row.statements) ∧
        (∀ row ∈ rows, ∀ v ∈ row.statements, v.Held imports) ∧
        (∀ statement, .text statement ∈ imports ↔ ∃ row ∈ rows, .text statement ∈ row.statements) ∧
        Value.Distinct imports := by
  obtain ⟨hgives, honce, hsymbols⟩ := effectiveSymbols_gives h map hnames
  have hshown : ∀ v ∈ importsFor (names.filter map.has) map,
      ∃ row ∈ names.map fun name => (⟨cell, name, map.statements name⟩ : NameRow),
        v ∈ row.statements := by
    intro v hv
    obtain ⟨name, hname, hstatement⟩ := exists_of_mem_importsFor hv
    exact ⟨_, List.mem_map.mpr ⟨name, (List.mem_filter.mp hname).1, rfl⟩, hstatement⟩
  have hheld : ∀ row ∈ names.map fun name => (⟨cell, name, map.statements name⟩ : NameRow),
      ∀ v ∈ row.statements, v.Held (importsFor (names.filter map.has) map) := by
    intro row hrow v hv
    obtain ⟨name, hname, rfl⟩ := List.mem_map.mp hrow
    exact held_importsFor (List.mem_filter.mpr ⟨hname, ImportMap.has_of_mem_statements hv⟩) hv
  refine ⟨honce, hsymbols, ?_, _, effectiveImports_gives hsymbols, hshown, hheld, ?_,
    distinct_importsFor _ map⟩
  · rintro raw rfl
    exact nameRows_gives map cell hgives
  · intro statement
    refine ⟨hshown _, ?_⟩
    rintro ⟨row, hrow, hv⟩
    exact Value.held_text_iff.mp (hheld row hrow _ hv)

def idle : Session (World Unit) := .start
  { disk := ⟨[], []⟩, env := [], input := [], output := [], errors := [], linter := () }

def secondLinter : Linter (World Unit) := .ofFunction secondCellNames

theorem effectiveSymbols_of_undefinedNames_second :
    secondLinter.Gives secondCellNames ∧
      (undefinedNames secondLinter ['x'] secondCell).outcome idle = (.ok ["pd", "foo"], idle) ∧
      (effectiveSymbols secondLinter shortNames ['x'] secondCell).Gives
        (.ok (["pd", "foo"].filter shortNames.has)) ∧
      ["pd", "foo"].filter shortNames.has = ["pd"] := by
  have hnames : (undefinedNames secondLinter ['x'] secondCell).outcome idle =
      (.ok ["pd", "foo"], idle) := by cbv
  obtain ⟨-, hsymbols, -⟩ := effectiveSymbols_of_undefinedNames (ofFunction_gives secondCellNames)
    shortNames hnames none
  exact ⟨ofFunction_gives _, hnames, hsymbols, by cbv⟩

end TidyImports
