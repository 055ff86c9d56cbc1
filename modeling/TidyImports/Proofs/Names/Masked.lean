import TidyImports.Proofs.Mask
import TidyImports.Proofs.Names.Unit

/-!
# Masked code

A unit is masked before it is analysed, and the cells before it are masked one by one when they are
put in front of it. It makes no difference whether texts are masked before or after they are joined,
so that no magic line comes to the linter in either way.

* `masked_unlines` — masking texts that are joined;
* `cellsThrough_masked` — the code up to a cell as a masked text;
* `analysis_sameOn` — no analysis of masked text asks about a text with magic lines;
* `masked_analysis` — all of this, for any texts and cells.
-/

namespace TidyImports

/-- No line of the text begins with a percent sign. -/
def Text.NoMagic (text : Text) : Prop := ∀ line ∈ text.lines, line.head? ≠ some '%'

/-! ## Lines -/

theorem head?_maskLine (line : Text) : (maskLine line).head? ≠ some '%' := by
  cases hm : isMagic line with
  | true =>
    obtain ⟨rest, rfl⟩ := isMagic_iff.mp hm
    simp [maskLine]
  | false =>
    rw [maskLine_of_not_isMagic hm]
    simpa [isMagic] using hm

theorem length_maskLine (line : Text) : (maskLine line).length = line.length := by
  cases hm : isMagic line with
  | true =>
    obtain ⟨rest, rfl⟩ := isMagic_iff.mp hm
    rfl
  | false => rw [maskLine_of_not_isMagic hm]

theorem lines_masked (text : Text) : (masked text).lines = text.lines.map maskLine :=
  lines_mask text

theorem noMagic_masked (text : Text) : (masked text).NoMagic := by
  intro line hline
  rw [lines_masked] at hline
  obtain ⟨source, -, rfl⟩ := List.mem_map.mp hline
  exact head?_maskLine source

/-- What holds of the lines holds of the beginning of the text. -/
theorem Text.NoMagic.head?_ne {text : Text} (h : text.NoMagic) : text.head? ≠ some '%' := by
  intro hhead
  obtain ⟨rest, rfl⟩ := List.head?_eq_some_iff.mp hhead
  obtain ⟨line, ls, hlines⟩ := exists_lines_eq_cons rest
  have hfirst : lines ('%' :: rest) = ('%' :: line) :: ls := by
    rw [lines, splitAt, if_neg (by decide), ← lines, hlines]
  exact h ('%' :: line) (by rw [hfirst]; exact List.mem_cons_self) rfl

/-! ## Joined texts -/

theorem lines_unlines_masked {texts : List Text} (h : texts ≠ []) :
    (Text.unlines (texts.map masked)).lines = (Text.unlines texts).lines.map maskLine := by
  have hmap : texts.map masked ≠ [] := fun hnil => h (List.map_eq_nil_iff.mp hnil)
  rw [Text.lines_unlines_flatMap hmap, Text.lines_unlines_flatMap h, List.flatMap_map,
    List.map_flatMap]
  exact congrArg (texts.flatMap ·) (funext lines_masked)

/-- Texts can be masked before or after they are joined. -/
theorem masked_unlines (texts : List Text) :
    masked (Text.unlines texts) = Text.unlines (texts.map masked) := by
  by_cases h : texts = []
  · subst h
    rfl
  · rw [← Text.unlines_lines (masked _), lines_masked, ← lines_unlines_masked h, Text.unlines_lines]

/-- The code before a cell and a text in the place of the cell, all of it as it stands. -/
def rawThrough (cells : List Cell) (i : Nat) (text : Text) : Text :=
  Text.unlines (((cells.take i).filter Cell.isCode).map (·.text) ++ [text])

theorem cellsThrough_masked {cells : List Cell} {i : Nat} (hi : i < cells.length) (text : Text) :
    cellsThrough cells i (masked text) = masked (rawThrough cells i text) := by
  rw [cellsThrough_eq_codeThrough hi, codeThrough, rawThrough, masked_unlines, List.map_append,
    List.map_map, List.map_singleton]
  rfl

/-! ## What the linter is asked about -/

/-- The linters do the same with the texts that have no magic line. -/
def Linter.SameOnPlain {σ : Type} (linter linter' : Linter σ) : Prop :=
  ∀ (text : Text) (config : Config), text.NoMagic → linter text config = linter' text config

/-- An analysis of masked text asks about texts without magic lines only. -/
theorem analysis_sameOn {σ : Type} {ask ask' : Text → Run σ (List String)}
    (h : ∀ asked : Text, asked.NoMagic → ask asked = ask' asked)
    (note : Int → List String → List String → Run σ Unit) (text : Text) (context : UnitContext) :
    analysis ask note (masked text) context = analysis ask' note (masked text) context := by
  have halone := h (masked text) (noMagic_masked text)
  rcases context.misplaced_or with hout | hfile | ⟨cells, i, rfl, hi⟩
  · obtain ⟨fault, hfail⟩ := analysis_misplaced (σ := σ) hout
    rw [hfail, hfail]
  · rw [analysis_alone _ _ _ hfile, analysis_alone _ _ _ hfile, halone]
  · have hthrough : (codeThrough cells i (masked text)).NoMagic := by
      rw [← cellsThrough_eq_codeThrough hi, cellsThrough_masked hi]
      exact noMagic_masked _
    rw [analysis_cell _ _ _ hi, analysis_cell _ _ _ hi, halone, h _ hthrough]

section

variable {σ : Type} {linter linter' : Linter σ} (h : linter.SameOnPlain linter') (map : ImportMap)

include h

theorem undefinedSymbols_sameOn {text : Text} (hplain : text.NoMagic) :
    undefinedSymbols linter text = undefinedSymbols linter' text := by
  rw [undefinedSymbols, undefinedSymbols, h text _ hplain]

theorem resolvable_sameOn {text : Text} (hplain : text.NoMagic) :
    resolvable linter map text = resolvable linter' map text := by
  rw [resolvable, resolvable, undefinedSymbols_sameOn h hplain]

theorem effectiveSymbols_sameOn (text : Text) (context : UnitContext) :
    effectiveSymbols linter map (masked text) context =
      effectiveSymbols linter' map (masked text) context := by
  rw [effectiveSymbols_eq_analysis, effectiveSymbols_eq_analysis]
  exact analysis_sameOn (fun _ => resolvable_sameOn h map) _ text context

theorem undefinedNames_sameOn (text : Text) (context : UnitContext) :
    undefinedNames linter (masked text) context = undefinedNames linter' (masked text) context := by
  rw [undefinedNames_eq_analysis, undefinedNames_eq_analysis]
  exact analysis_sameOn (fun _ => undefinedSymbols_sameOn h) _ text context

end

/-- **Masked code.** A masked text has the lines of the text, each as long as before and none of
them magic. The code up to a cell, whose own text is masked, is the masked form of the raw texts of
the code cells before it and of the cell, joined; so it has no magic line either. Hence the
analysis of names never asks about a text with a magic line: linters that do the same with all
other texts lead to the same run. -/
theorem masked_analysis :
    (∀ text : Text, List.Forall₂
      (fun line shown : Text => shown.length = line.length ∧ shown.head? ≠ some '%')
      text.lines (masked text).lines) ∧
    (∀ (cells : List Cell) (i : Nat), i < cells.length → ∀ text : Text,
      cellsThrough cells i (masked text) = masked (rawThrough cells i text) ∧
        (cellsThrough cells i (masked text)).NoMagic) ∧
    ∀ (σ : Type) (linter linter' : Linter σ), linter.SameOnPlain linter' →
      ∀ (map : ImportMap) (text : Text) (context : UnitContext),
        effectiveSymbols linter map (masked text) context =
            effectiveSymbols linter' map (masked text) context ∧
          undefinedNames linter (masked text) context =
            undefinedNames linter' (masked text) context := by
  refine ⟨fun text => ?_, fun cells i hi text => ?_, fun σ linter linter' h map text context => ?_⟩
  · rw [lines_masked, List.forall₂_map_right_iff]
    exact List.forall₂_same.mpr fun line _ => ⟨length_maskLine line, head?_maskLine line⟩
  · rw [cellsThrough_masked hi text]
    exact ⟨rfl, noMagic_masked _⟩
  · exact ⟨effectiveSymbols_sameOn h map text context, undefinedNames_sameOn h text context⟩

/-- A cell with a magic line that ends in a line break, a cell of prose, and the cell in
question. -/
def magicCells : List Cell :=
  [⟨"code", ['%', 'm', '\n']⟩, ⟨"markdown", ['%', 'p']⟩, ⟨"code", ['%', 'n', '\n', 'x']⟩]

/-- Finds nothing, but fails on a text that begins with a magic line. -/
def strictLinter : Linter Unit := fun text _ =>
  if text.head? = some '%' then Run.fail .disabled else pure []

theorem masked_analysis_joined :
    rawThrough magicCells 2 ['%', 'n', '\n', 'x'] =
        ['%', 'm', '\n', '\n', '%', 'n', '\n', 'x'] ∧
      cellsThrough magicCells (2 : Nat) (masked ['%', 'n', '\n', 'x']) =
        masked ['%', 'm', '\n', '\n', '%', 'n', '\n', 'x'] ∧
      effectiveSymbols strictLinter [] (masked ['%', 'n', '\n', 'x'])
          ⟨some magicCells, some (2 : Nat)⟩ =
        effectiveSymbols (fun _ _ => pure []) [] (masked ['%', 'n', '\n', 'x'])
          ⟨some magicCells, some (2 : Nat)⟩ := by
  obtain ⟨-, hcells, hanalysis⟩ := masked_analysis
  have hraw : rawThrough magicCells 2 ['%', 'n', '\n', 'x'] =
      ['%', 'm', '\n', '\n', '%', 'n', '\n', 'x'] := by decide
  refine ⟨hraw, ?_, ?_⟩
  · rw [← hraw]
    exact (hcells magicCells 2 (by decide) _).1
  · refine (hanalysis Unit strictLinter (fun _ _ => pure []) ?_ [] _ _).1
    intro text config hplain
    exact if_neg hplain.head?_ne

end TidyImports
