import Mathlib.Data.List.Forall2
import TidyImports.Proofs.Format.Agreement

/-!
# Cells see only the code before them

Two notebooks that are alike through a cell (`Notebook.AlikeThrough`) may differ in prose anywhere
and in everything behind that cell. Formatting them asks the same questions and comes to the same
outcome for every code cell up to there.

* `formatDocument_of_cellsThrough` — a cell sees its notebook through the code up to it only;
* `visits` — a run over a notebook, told cell by cell, and `tells_visits`, that it is that run;
* `visitsAt_code`, `visitsAt_prose` — one cell in two runs over notebooks that are alike;
* `formatNotebook_of_alikeThrough` — what this says of formatting whole notebooks.
-/

namespace TidyImports

/-! ## Linters that note their calls -/

/-- Answers by a function of text and configuration, which may refuse, and keeps the calls, the
latest last. -/
def Linter.noting (answer : Text → Config → Except Failure (List Diagnostic)) :
    Linter (List (Text × Config)) := fun text config => do
  Run.step fun calls => ((), calls ++ [(text, config)])
  Run.ofExcept (answer text config)

/-- What was called before has no influence and is kept. -/
theorem noting_agrees (answer : Text → Config → Except Failure (List Diagnostic))
    (before : List (Text × Config)) :
    Linter.Agrees (fun calls later => calls = before ++ later) (.noting answer)
      (.noting answer) := by
  intro text config
  refine Run.agrees_bind (Run.agrees_step ?_) fun _ => Run.agrees_ofExcept _
  rintro _ later rfl
  exact ⟨rfl, List.append_assoc _ _ _⟩

/-! ## Notebooks alike through a cell -/

/-- Cells of one kind, with one text where that kind is code. -/
def Cell.Alike (c d : Cell) : Prop := c.kind = d.kind ∧ (c.isCode = true → c.text = d.text)

theorem Cell.Alike.isCode_eq {c d : Cell} (h : c.Alike d) : c.isCode = d.isCode := by
  rw [Cell.isCode, Cell.isCode, h.1]

/-- The first `k` cells of both notebooks are alike, pair by pair. -/
def Notebook.AlikeThrough (k : Nat) (a b : Notebook) : Prop :=
  List.Forall₂ Cell.Alike (a.cells.take k) (b.cells.take k)

theorem forall₂_modify {f g : Cell → Cell} (hfg : ∀ c d, c.Alike d → (f c).Alike (g d))
    {xs ys : List Cell} (h : List.Forall₂ Cell.Alike xs ys) (i : Nat) :
    List.Forall₂ Cell.Alike (xs.modify i f) (ys.modify i g) := by
  induction h generalizing i with
  | nil => simp
  | cons hcd hrest ih =>
    cases i with
    | zero => exact .cons (hfg _ _ hcd) hrest
    | succ i => exact .cons hcd (ih i)

theorem getElem?_of_forall₂ {xs ys : List Cell} (h : List.Forall₂ Cell.Alike xs ys) (i : Nat) :
    xs[i]? = none ∧ ys[i]? = none ∨ ∃ c d, xs[i]? = some c ∧ ys[i]? = some d ∧ c.Alike d := by
  induction h generalizing i with
  | nil => exact Or.inl ⟨rfl, rfl⟩
  | @cons c d _ _ hcd _ ih =>
    cases i with
    | zero => exact Or.inr ⟨c, d, rfl, rfl, hcd⟩
    | succ i => exact ih i

/-- There is such a cell, and it is code. -/
def Notebook.CodeAt (notebook : Notebook) (i : Nat) : Prop :=
  ∃ c, notebook.cells[i]? = some c ∧ c.isCode = true

/-- The text of a cell, if there is such a cell. -/
def Notebook.textAt (notebook : Notebook) (i : Nat) : Option Text :=
  (notebook.cells[i]?).map (·.text)

theorem Notebook.CodeAt.lt_length {notebook : Notebook} {i : Nat} (h : notebook.CodeAt i) :
    i < notebook.cells.length := by
  obtain ⟨c, hc, -⟩ := h
  exact (List.getElem?_eq_some_iff.mp hc).1

namespace Notebook.AlikeThrough

variable {k : Nat} {a b : Notebook}

theorem setText (h : AlikeThrough k a b) (i : Nat) (text : Text) :
    AlikeThrough k (a.setText i text) (b.setText i text) := by
  have hset : ∀ c d : Cell, c.Alike d → Cell.Alike { c with text := text } { d with text := text } :=
    fun c d hcd => ⟨hcd.1, fun _ => rfl⟩
  unfold AlikeThrough Notebook.setText
  rw [List.take_modify, List.take_modify]
  exact forall₂_modify hset h i

theorem exists_alike (h : AlikeThrough k a b) {i : Nat} (hi : i < k) {c : Cell}
    (hc : a.cells[i]? = some c) : ∃ d, b.cells[i]? = some d ∧ c.Alike d := by
  have hget := getElem?_of_forall₂ h i
  rw [List.getElem?_take_of_lt hi, List.getElem?_take_of_lt hi, hc] at hget
  obtain ⟨⟨⟩, -⟩ | ⟨c', d, ⟨⟩, hd, halike⟩ := hget
  exact ⟨d, hd, halike⟩

theorem codeAt (h : AlikeThrough k a b) {i : Nat} (hi : i < k) (hcode : a.CodeAt i) :
    b.CodeAt i := by
  obtain ⟨c, hc, hisCode⟩ := hcode
  obtain ⟨d, hd, halike⟩ := h.exists_alike hi hc
  exact ⟨d, hd, by rw [← halike.isCode_eq]; exact hisCode⟩

theorem textAt_eq (h : AlikeThrough k a b) {i : Nat} (hi : i < k) (hcode : a.CodeAt i) :
    a.textAt i = b.textAt i := by
  obtain ⟨c, hc, hisCode⟩ := hcode
  obtain ⟨d, hd, halike⟩ := h.exists_alike hi hc
  rw [textAt, textAt, hc, hd, Option.map_some, Option.map_some, halike.2 hisCode]

end Notebook.AlikeThrough

theorem cellTexts_of_forall₂ {xs ys : List Cell} (h : List.Forall₂ Cell.Alike xs ys) (index : Int)
    (text : Text) (n : Int) : cellTexts index text n xs = cellTexts index text n ys := by
  induction h generalizing n with
  | nil => rfl
  | cons hcd _ ih =>
    rw [cellTexts, cellTexts, ← hcd.isCode_eq, ih]
    split
    · rfl
    · split
      · rename_i hcode
        rw [hcd.2 hcode]
      · rfl

theorem cellsThrough_of_alikeThrough {k : Nat} {a b : Notebook}
    (h : Notebook.AlikeThrough k a b) {i : Nat} (hi : i < k) (text : Text) :
    cellsThrough a.cells i text = cellsThrough b.cells i text := by
  have hcount : ∀ count : Nat, countThrough count (i : Int) = i + 1 := by
    intro count
    unfold countThrough
    simp only
    rw [if_neg (by omega)]
    omega
  have htake := List.forall₂_take (i + 1) h
  rw [List.take_take, List.take_take, Nat.min_eq_left hi] at htake
  unfold cellsThrough
  rw [hcount, hcount, cellTexts_of_forall₂ htake]

/-! ## Formatting one cell -/

section

variable {σ : Type} (linter : Linter σ) (snapshot : Snapshot)

/-- The place of a cell in a notebook that holds it. -/
theorem check_cell {cells : List Cell} {i : Nat} (hi : i < cells.length) :
    UnitContext.check ⟨some cells, some (i : Int)⟩ = .ok (cells, (i : Int)) := by
  rw [UnitContext.check]
  simp only
  rw [if_pos (by omega)]

theorem effectiveImports_of_cellsThrough (map : ImportMap) {cells cells' : List Cell} {i : Nat}
    (hi : i < cells.length) (hi' : i < cells'.length) {text : Text}
    (h : cellsThrough cells i text = cellsThrough cells' i text) :
    effectiveImports linter map text ⟨some cells, some (i : Int)⟩ =
      effectiveImports linter map text ⟨some cells', some (i : Int)⟩ := by
  unfold effectiveImports effectiveSymbols
  simp only [check_cell hi, check_cell hi', Run.ofExcept, pure_bind, h]
  rfl

/-- A cell sees its notebook through the code up to it only. -/
theorem formatDocument_of_cellsThrough {cells cells' : List Cell} {i : Nat} (hi : i < cells.length)
    (hi' : i < cells'.length) {text : Text}
    (h : cellsThrough cells i (mask text).2 = cellsThrough cells' i (mask text).2) (full : Bool) :
    formatDocument linter snapshot text ⟨full, none, ⟨some cells, some (i : Int)⟩⟩ =
      formatDocument linter snapshot text ⟨full, none, ⟨some cells', some (i : Int)⟩⟩ := by
  unfold formatDocument
  simp only [effectiveImports_of_cellsThrough linter snapshot.imports hi hi' h]
  rfl

theorem formatCell_prose {notebook : Notebook} {i : Nat} {c : Cell}
    (hc : notebook.cells[i]? = some c) (hprose : c.isCode = false) (full : Bool) :
    formatCell linter snapshot notebook i full = pure (notebook, .unchanged c.text) := by
  obtain ⟨hi, -⟩ := List.getElem?_eq_some_iff.mp hc
  unfold formatCell
  simp only [check_cell hi, Run.ofExcept, pure_bind, Int.toNat_natCast, hc, hprose]
  rfl

/-- The notebook with what formatting made of a cell. -/
def Notebook.withResult (notebook : Notebook) (i : Nat) (result : FormatResult) : Notebook :=
  if result.changed then notebook.setText i result.text else notebook

theorem Notebook.withResult_unchanged (notebook : Notebook) (i : Nat) (text : Text) :
    notebook.withResult i (.unchanged text) = notebook := by
  simp [withResult, FormatResult.unchanged, FormatResult.changed]

/-- A cell that is code comes to what its text comes to. -/
theorem formatCell_code {notebook : Notebook} {i : Nat} {c : Cell}
    (hc : notebook.cells[i]? = some c) (hcode : c.isCode = true) (full : Bool) (s : Session σ) :
    (formatCell linter snapshot notebook i full).outcome s =
      let reached := (formatDocument linter snapshot c.text
        ⟨full, none, ⟨some notebook.cells, some (i : Int)⟩⟩).outcome s
      (reached.1.map fun result => (notebook.withResult i result, result), reached.2) := by
  obtain ⟨hi, -⟩ := List.getElem?_eq_some_iff.mp hc
  unfold formatCell
  simp only [check_cell hi, Run.ofExcept, pure_bind, Int.toNat_natCast, hc, hcode]
  rw [if_neg (by decide), Run.outcome_bind]
  cases (formatDocument linter snapshot c.text
    ⟨full, none, ⟨some notebook.cells, some (i : Int)⟩⟩).outcome s with
  | mk result t =>
    cases result with
    | error f => rfl
    | ok result => rfl

/-- Formatting one cell leaves the others. -/
theorem formatCell_ends (notebook : Notebook) (i : Nat) (full : Bool) :
    (formatCell linter snapshot notebook i full).Ends
      (fun reached => reached.1 = notebook.withResult i reached.2) (fun _ => True) := by
  intro s
  cases hc : notebook.cells[i]? with
  | none =>
    have hi := List.getElem?_eq_none_iff.mp hc
    unfold formatCell
    simp only [UnitContext.check]
    rw [if_neg (by omega)]
    trivial
  | some c =>
    cases hcode : c.isCode with
    | false =>
      rw [formatCell_prose linter snapshot hc hcode, Run.outcome_pure]
      exact (notebook.withResult_unchanged i c.text).symm
    | true =>
      rw [formatCell_code linter snapshot hc hcode]
      simp only
      cases ((formatDocument linter snapshot c.text
        ⟨full, none, ⟨some notebook.cells, some (i : Int)⟩⟩).outcome s).1 with
      | error f => trivial
      | ok result => rfl

end

theorem Notebook.length_withResult (notebook : Notebook) (i : Nat) (result : FormatResult) :
    (notebook.withResult i result).cells.length = notebook.cells.length := by
  unfold withResult
  split
  · rw [setText, List.length_modify]
  · rfl

theorem Notebook.getElem?_withResult {i j : Nat} (h : j ≠ i) (notebook : Notebook)
    (result : FormatResult) : (notebook.withResult i result).cells[j]? = notebook.cells[j]? := by
  unfold withResult
  split
  · simp [setText, Ne.symm h]
  · rfl

theorem Notebook.textAt_withResult {i j : Nat} (h : j ≠ i) (notebook : Notebook)
    (result : FormatResult) : (notebook.withResult i result).textAt j = notebook.textAt j := by
  rw [textAt, textAt, getElem?_withResult h]

theorem Notebook.codeAt_withResult {notebook : Notebook} {j : Nat} (h : notebook.CodeAt j) (i : Nat)
    (result : FormatResult) : (notebook.withResult i result).CodeAt j := by
  obtain ⟨c, hc, hcode⟩ := h
  unfold withResult
  split
  · refine ⟨if i = j then { c with text := result.text } else c, ?_, ?_⟩
    · rw [setText, List.getElem?_modify, hc]
      rfl
    · split <;> exact hcode
  · exact ⟨c, hc, hcode⟩

theorem Notebook.AlikeThrough.withResult {k : Nat} {a b : Notebook}
    (h : Notebook.AlikeThrough k a b) (i : Nat) (result : FormatResult) :
    Notebook.AlikeThrough k (a.withResult i result) (b.withResult i result) := by
  unfold Notebook.withResult
  split
  · exact h.setText i result.text
  · exact h

/-! ## A run told cell by cell -/

/-- What happened to one cell: the calls for it, what they came to, and its text afterwards. -/
structure CellVisit where
  calls : List (Text × Config)
  outcome : Except Failure FormatResult
  text : Option Text

section

variable (answer : Text → Config → Except Failure (List Diagnostic)) (snapshot : Snapshot)
  (full : Bool)

/-- One visit for each cell up to the first that fails. -/
def visitsAt (notebook : Notebook) : List Nat → List CellVisit
  | [] => []
  | i :: rest =>
    match (formatCell (.noting answer) snapshot notebook i full).outcome (Session.start []) with
    | (.error f, s) => [⟨s.world, .error f, notebook.textAt i⟩]
    | (.ok (after, result), s) =>
      ⟨s.world, .ok result, after.textAt i⟩ :: visitsAt after rest

end

section

variable {answer : Text → Config → Except Failure (List Diagnostic)} {snapshot : Snapshot}
  {full : Bool}

/-- A run over cells is told by the visits: their outcomes are its results and its failure, and
their calls are its calls, whatever was called before. -/
theorem formatCells_visitsAt (notebook : Notebook) (indices : List Nat)
    (s : Session (List (Text × Config))) :
    let reached := (formatCells (.noting answer) snapshot full notebook indices).run s
    let told := visitsAt answer snapshot full notebook indices
    told.map (·.outcome) =
        reached.1.results.map .ok ++ reached.1.failure.toList.map .error ∧
      reached.2.world = s.world ++ told.flatMap (·.calls) := by
  induction indices generalizing notebook s with
  | nil => exact ⟨rfl, (List.append_nil _).symm⟩
  | cons i rest ih =>
    obtain ⟨hsame, hcalls⟩ := formatCell_agrees (noting_agrees answer s.world) snapshot notebook i
      full s (Session.start []) (List.append_nil _).symm
    simp only
    rw [formatCells_cons, visitsAt]
    cases hs : (formatCell (.noting answer) snapshot notebook i full).outcome s with
    | mk result s₁ =>
      cases ht : (formatCell (.noting answer) snapshot notebook i full).outcome
          (Session.start []) with
      | mk result' t₁ =>
        rw [hs, ht] at hsame hcalls
        simp only at hsame hcalls
        subst hsame
        cases result with
        | error f => simp [hcalls]
        | ok reached =>
          obtain ⟨houtcomes, hworld⟩ := ih reached.1 s₁
          simp [houtcomes, hworld, hcalls]

/-- Cells that are not visited keep their texts. -/
theorem formatCells_textAt {σ : Type} (linter : Linter σ) (notebook : Notebook) (indices : List Nat)
    (s : Session σ) {j : Nat} (hj : j ∉ indices) :
    ((formatCells linter snapshot full notebook indices).run s).1.notebook.textAt j =
      notebook.textAt j := by
  induction indices generalizing notebook s with
  | nil => rfl
  | cons i rest ih =>
    rw [List.mem_cons, not_or] at hj
    rw [formatCells_cons]
    cases hs : (formatCell linter snapshot notebook i full).outcome s with
    | mk result t =>
      cases result with
      | error f => rfl
      | ok reached =>
        have hafter := (formatCell_ends linter snapshot notebook i full).of_outcome hs
        simp only
        rw [ih reached.1 t hj.2, hafter, Notebook.textAt_withResult hj.1]

/-- Each visit tells the text that its cell has at the end of the run. -/
theorem formatCells_visitsAt_text (notebook : Notebook) {indices : List Nat} (honce : indices.Nodup)
    (s : Session (List (Text × Config))) {m : Nat} {visit : CellVisit}
    (hvisit : (visitsAt answer snapshot full notebook indices)[m]? = some visit) :
    ∃ i, indices[m]? = some i ∧
      ((formatCells (.noting answer) snapshot full notebook indices).run s).1.notebook.textAt i =
        visit.text := by
  induction indices generalizing notebook s m with
  | nil => cases hvisit
  | cons j rest ih =>
    rw [List.nodup_cons] at honce
    obtain ⟨hsame, -⟩ := formatCell_agrees (noting_agrees answer s.world) snapshot notebook j
      full s (Session.start []) (List.append_nil _).symm
    rw [visitsAt] at hvisit
    rw [formatCells_cons]
    cases hs : (formatCell (.noting answer) snapshot notebook j full).outcome s with
    | mk result s₁ =>
      cases ht : (formatCell (.noting answer) snapshot notebook j full).outcome
          (Session.start []) with
      | mk result' t₁ =>
        rw [hs, ht] at hsame
        simp only at hsame
        subst hsame
        rw [ht] at hvisit
        cases result with
        | error f =>
          cases m with
          | zero =>
            cases hvisit
            exact ⟨j, rfl, rfl⟩
          | succ m => cases hvisit
        | ok reached =>
          cases m with
          | zero =>
            cases hvisit
            exact ⟨j, rfl, formatCells_textAt _ reached.1 rest s₁ honce.1⟩
          | succ m => exact ih reached.1 honce.2 s₁ hvisit

/-! ## Two notebooks side by side -/

theorem range'_eq_cons {j n : Nat} (h : j < n) :
    List.range' j (n - j) = j :: List.range' (j + 1) (n - (j + 1)) := by
  have hlen : n - j = n - (j + 1) + 1 := by omega
  rw [hlen, List.range'_succ]

/-- A cell that is code comes to the same in both runs, and leaves notebooks that are alike. -/
theorem visitsAt_code {k : Nat} {a b : Notebook} (h : a.AlikeThrough k b) {j : Nat} (hj : j < k)
    (hcode : a.CodeAt j) (rest rest' : List Nat) :
    ∃ visit, visitsAt answer snapshot full a (j :: rest) = [visit] ∧
        visitsAt answer snapshot full b (j :: rest') = [visit] ∨
      ∃ result, visitsAt answer snapshot full a (j :: rest) =
          visit :: visitsAt answer snapshot full (a.withResult j result) rest ∧
        visitsAt answer snapshot full b (j :: rest') =
          visit :: visitsAt answer snapshot full (b.withResult j result) rest' := by
  have htext := h.textAt_eq hj hcode
  obtain ⟨c, hc, hisCode⟩ := hcode
  obtain ⟨d, hd, halike⟩ := h.exists_alike hj hc
  obtain ⟨hja, -⟩ := List.getElem?_eq_some_iff.mp hc
  obtain ⟨hjb, -⟩ := List.getElem?_eq_some_iff.mp hd
  have hsame := formatDocument_of_cellsThrough (.noting answer) snapshot hja hjb
    (cellsThrough_of_alikeThrough h hj (mask c.text).2) full
  rw [visitsAt, visitsAt, formatCell_code _ _ hc hisCode,
    formatCell_code _ _ hd (by rw [← halike.isCode_eq]; exact hisCode), ← halike.2 hisCode, hsame]
  cases (formatDocument (.noting answer) snapshot c.text
    ⟨full, none, ⟨some b.cells, some (j : Int)⟩⟩).outcome (Session.start []) with
  | mk result s =>
    cases result with
    | error f =>
      refine ⟨⟨s.world, .error f, a.textAt j⟩, Or.inl ⟨rfl, ?_⟩⟩
      rw [htext]
      rfl
    | ok result =>
      refine ⟨⟨s.world, .ok result, (a.withResult j result).textAt j⟩, Or.inr ⟨result, rfl, ?_⟩⟩
      rw [(h.withResult j result).textAt_eq hj (Notebook.codeAt_withResult ⟨c, hc, hisCode⟩ j _)]
      rfl

/-- A cell of prose leaves its notebook as it is. -/
theorem visitsAt_prose {notebook : Notebook} {j : Nat} {c : Cell} (hc : notebook.cells[j]? = some c)
    (hprose : c.isCode = false) (rest : List Nat) :
    ∃ visit, visitsAt answer snapshot full notebook (j :: rest) =
      visit :: visitsAt answer snapshot full notebook rest := by
  rw [visitsAt, formatCell_prose _ _ hc hprose]
  exact ⟨_, rfl⟩

theorem visitsAt_of_alikeThrough {k : Nat} {a b : Notebook} (h : a.AlikeThrough k b) {j i : Nat}
    (hi : j + i < k) (hcode : a.CodeAt (j + i)) :
    (visitsAt answer snapshot full a (List.range' j (a.cells.length - j)))[i]? =
      (visitsAt answer snapshot full b (List.range' j (b.cells.length - j)))[i]? := by
  induction i generalizing j a b with
  | zero =>
    rw [Nat.add_zero] at hi hcode
    rw [range'_eq_cons hcode.lt_length, range'_eq_cons (h.codeAt hi hcode).lt_length]
    obtain ⟨visit, ⟨ha, hb⟩ | ⟨result, ha, hb⟩⟩ := visitsAt_code h hi hcode
      (List.range' (j + 1) (a.cells.length - (j + 1)))
      (List.range' (j + 1) (b.cells.length - (j + 1)))
    · rw [ha, hb]
    · rw [ha, hb]
      rfl
  | succ i ih =>
    have hplace : j + (i + 1) = j + 1 + i := by omega
    rw [hplace] at hi hcode
    have hj : j < k := by omega
    have hja : j < a.cells.length := by have := hcode.lt_length; omega
    have hc := List.getElem?_eq_getElem hja
    obtain ⟨d, hd, halike⟩ := h.exists_alike hj hc
    have hjb : j < b.cells.length := (List.getElem?_eq_some_iff.mp hd).1
    rw [range'_eq_cons hja, range'_eq_cons hjb]
    cases hkind : (a.cells[j]).isCode with
    | false =>
      obtain ⟨visit, ha⟩ := @visitsAt_prose answer snapshot full _ _ _ hc hkind
        (List.range' (j + 1) (a.cells.length - (j + 1)))
      obtain ⟨visit', hb⟩ := @visitsAt_prose answer snapshot full _ _ _ hd
        (by rw [← halike.isCode_eq]; exact hkind)
        (List.range' (j + 1) (b.cells.length - (j + 1)))
      rw [ha, hb, List.getElem?_cons_succ, List.getElem?_cons_succ]
      exact ih h hi hcode
    | true =>
      obtain ⟨visit, ⟨ha, hb⟩ | ⟨result, ha, hb⟩⟩ := visitsAt_code h hj ⟨_, hc, hkind⟩
        (List.range' (j + 1) (a.cells.length - (j + 1)))
        (List.range' (j + 1) (b.cells.length - (j + 1)))
      · rw [ha, hb]
      · have hrest := ih (h.withResult j result) hi (Notebook.codeAt_withResult hcode j result)
        rw [Notebook.length_withResult, Notebook.length_withResult] at hrest
        rw [ha, hb, List.getElem?_cons_succ, List.getElem?_cons_succ]
        exact hrest

end

/-! ## Whole notebooks -/

section

variable (answer : Text → Config → Except Failure (List Diagnostic)) (snapshot : Snapshot)
  (full : Bool)

/-- The visits of formatting a whole notebook; the visit at `i` is that of the cell at `i`. -/
def visits (notebook : Notebook) : List CellVisit :=
  visitsAt answer snapshot full notebook (List.range notebook.cells.length)

/-- The visits tell what formatting the notebook does, whatever was called before. -/
structure Tells (told : List CellVisit) (notebook : Notebook) : Prop where
  outcomes : ∀ s, told.map (·.outcome) =
    ((formatNotebook (.noting answer) snapshot full notebook).run s).1.results.map .ok ++
      ((formatNotebook (.noting answer) snapshot full notebook).run s).1.failure.toList.map .error
  calls : ∀ s, ((formatNotebook (.noting answer) snapshot full notebook).run s).2.world =
    s.world ++ told.flatMap (·.calls)
  texts : ∀ s (i : Nat) visit, told[i]? = some visit →
    ((formatNotebook (.noting answer) snapshot full notebook).run s).1.notebook.textAt i = visit.text

theorem tells_visits (notebook : Notebook) :
    Tells answer snapshot full (visits answer snapshot full notebook) notebook where
  outcomes s := (formatCells_visitsAt notebook _ s).1
  calls s := (formatCells_visitsAt notebook _ s).2
  texts := by
    intro s i visit hvisit
    obtain ⟨j, hj, htext⟩ := formatCells_visitsAt_text notebook List.nodup_range s hvisit
    obtain ⟨hi, heq⟩ := List.getElem?_eq_some_iff.mp hj
    rw [List.getElem_range] at heq
    rw [heq]
    exact htext

/-- **Cells see only the code before them.** Formatting two notebooks that are alike through their
first `k` cells makes the same calls for each cell of code among these, with the same outcome and
the same text afterwards. -/
theorem formatNotebook_of_alikeThrough {k : Nat} {a b : Notebook} (h : a.AlikeThrough k b) :
    Tells answer snapshot full (visits answer snapshot full a) a ∧
      Tells answer snapshot full (visits answer snapshot full b) b ∧
      ∀ i, i < k → a.CodeAt i →
        (visits answer snapshot full a)[i]? = (visits answer snapshot full b)[i]? := by
  refine ⟨tells_visits answer snapshot full a, tells_visits answer snapshot full b, ?_⟩
  intro i hi hcode
  have hsame := @visitsAt_of_alikeThrough answer snapshot full k a b h 0 i (by omega)
    (by rwa [Nat.zero_add])
  rw [← List.range_eq_range', ← List.range_eq_range'] at hsame
  exact hsame

end

/-- Prose, a cell of code, and a cell that no linter call survives. -/
def broken : Notebook := ⟨[], [⟨"markdown", ['a']⟩, ⟨"code", ['x']⟩, ⟨"code", ['y']⟩]⟩

/-- Other prose, the same cell of code, and nothing behind it. -/
def short : Notebook := ⟨[], [⟨"markdown", ['b']⟩, ⟨"code", ['x']⟩]⟩

/-- Has nothing to say about one text and fails on all others. -/
def onlyX (text : Text) (_ : Config) : Except Failure (List Diagnostic) :=
  if text = ['x'] then .ok [] else .error (.linter .notList [] [])

theorem formatNotebook_of_alikeThrough_broken :
    broken.AlikeThrough 2 short ∧
      (visits onlyX ⟨{ timeout := .int 1 }, []⟩ true broken)[1]? =
        (visits onlyX ⟨{ timeout := .int 1 }, []⟩ true short)[1]? ∧
      (visits onlyX ⟨{ timeout := .int 1 }, []⟩ true broken)[1]?.map (·.text) =
        some (some ['x']) := by
  have halike : broken.AlikeThrough 2 short := by
    refine .cons ⟨rfl, ?_⟩ (.cons ⟨rfl, fun _ => rfl⟩ .nil)
    intro hcode
    exact absurd hcode (by decide)
  obtain ⟨-, -, hsame⟩ := formatNotebook_of_alikeThrough onlyX ⟨{ timeout := .int 1 }, []⟩ true halike
  exact ⟨halike, hsame 1 (by decide) ⟨⟨"code", ['x']⟩, rfl, rfl⟩, by with_unfolding_all rfl⟩

end TidyImports
