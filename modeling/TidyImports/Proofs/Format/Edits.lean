import TidyImports.Format
import TidyImports.Proofs.Converge.Trail
import TidyImports.Proofs.Edit.Splice
import TidyImports.Proofs.Mask

/-!
# The edits of a formatted text

The edits of a result lead from the text as it was to the new text, though they come about on
another path: the passes work on the masked text, in as many batches as it takes. `Replays` holds of
a text that is left alone (`replays_unchanged`) and of every run that has reached its text by its
batches (`replays_resultOf`), and so of whatever formatting returns (`formatDocument_replays`).
-/

namespace TidyImports

/-- The edits of a result lead from `text` to its text, there are some exactly when the text is
another one, and those of the whole text are a single edit. -/
structure Replays (text : Text) (r : FormatResult) : Prop where
  applied : applyAll text r.edits = .ok r.text
  edits_eq_nil_iff : r.edits = [] ↔ r.text = text
  edits_of_whole : r.whole = true → r.edits = [⟨documentRange text, r.text⟩]

theorem replays_unchanged (text : Text) : Replays text (.unchanged text) :=
  ⟨rfl, by simp [FormatResult.unchanged], by simp [FormatResult.unchanged]⟩

/-- A lone batch was made for the initial text: with nothing masked, for the text as it was. -/
theorem applyAll_of_lone_batch {text : Text} {batch : Batch} {c : Converged}
    (hmap : (mask text).1.isEmpty = true) (hb : c.batches = [batch])
    (h : Reached (mask text).2 c.text c.batches) : applyAll text batch = .ok c.text := by
  have ha := h.applied
  rw [hb, mask_of_isEmpty hmap] at ha
  simp only [applyBatches] at ha
  cases hr : applyAll text batch with
  | error fault => simp [hr, bind, Except.bind] at ha
  | ok next =>
    rw [hr] at ha
    exact ha

/-- The edit of the whole text is right whatever the batches were. -/
theorem replays_whole {text : Text} {r : FormatResult} (hne : r.text ≠ text)
    (he : r.edits = [⟨documentRange text, r.text⟩]) : Replays text r := by
  refine ⟨?_, ?_, fun _ => he⟩
  · rw [he]
    exact apply_documentRange text r.text
  · simp [he, hne]

theorem replays_resultOf {text : Text} {imports : List Value} {c : Converged}
    (h : Reached (mask text).2 c.text c.batches) :
    Replays text (resultOf text (mask text).1 imports c) := by
  unfold resultOf
  dsimp only
  split
  · rename_i hsame
    have hsame : unmask (mask text).1 c.text = text := by
      simpa [FormatResult.changed] using hsame
    exact ⟨congrArg Except.ok hsame.symm, iff_of_true rfl hsame, fun hw => by cases hw⟩
  · rename_i hdiff
    have hdiff : unmask (mask text).1 c.text ≠ text := by
      simpa [FormatResult.changed] using hdiff
    split
    -- only a single batch on a text without magic lines is handed on as it is
    · rename_i batch hb hmap
      have hun := unmask_of_isEmpty hmap c.text
      have hne : batch ≠ [] := h.nonempty batch (by simp [hb])
      refine ⟨?_, iff_of_false hne hdiff, fun hw => by cases hw⟩
      rw [hun]
      exact applyAll_of_lone_batch hmap hb h
    · exact replays_whole hdiff rfl

section

variable {σ : Type} (linter : Linter σ) (snapshot : Snapshot)

theorem formatDocument_ends (text : Text) (request : Request) :
    (formatDocument linter snapshot text request).Ends (Replays text) (fun _ => True) := by
  unfold formatDocument
  dsimp only
  split
  · exact Run.ends_fail trivial
  · apply Run.ends_bind (Run.ends_any _)
    intro effective _
    split
    · apply Run.ends_bind Run.ends_notify
      intro _ _
      exact Run.ends_pure (replays_unchanged text)
    · apply Run.ends_bind (converge_ends linter _ _ _)
      intro c hc
      exact Run.ends_pure (replays_resultOf hc)

/-- **Edits of a formatted text.** Whenever formatting returns, its edits lead from the text as it
was to the new text, there are none exactly when the text has not changed, and edits of the whole
text are one edit of all of it. -/
theorem formatDocument_replays {text : Text} {request : Request} {s t : Session σ}
    {r : FormatResult}
    (h : (formatDocument linter snapshot text request).outcome s = (.ok r, t)) : Replays text r :=
  (formatDocument_ends linter snapshot text request).of_outcome h

end

/-- Asks for a line above the `x` of one text. -/
def aboveLinter : Linter Unit := fun text _ =>
  let above : Edit := ⟨⟨⟨1, 0⟩, ⟨1, 0⟩, by decide⟩, ['y', '\n']⟩
  pure (if text = ['#', 'm', '\n', 'x'] then [⟨.text "I001", .text "", some [.ofEdit above], none⟩]
    else [])

/-- A text with a magic line is replaced as a whole. -/
theorem formatDocument_replays_magic :
    ∃ r t, (formatDocument aboveLinter ⟨{ timeout := .int 1 }, []⟩ ['%', 'm', '\n', 'x'] {}).outcome
      (.start ()) = (.ok r, t) ∧ r.text = ['%', 'm', '\n', 'y', '\n', 'x'] ∧ r.whole = true ∧
      Replays ['%', 'm', '\n', 'x'] r := by
  let above : Edit := ⟨⟨⟨1, 0⟩, ⟨1, 0⟩, by decide⟩, ['y', '\n']⟩
  have h : (formatDocument aboveLinter ⟨{ timeout := .int 1 }, []⟩ ['%', 'm', '\n', 'x'] {}).outcome
      (.start ()) =
      (.ok
        { before := ['%', 'm', '\n', 'x']
          text := ['%', 'm', '\n', 'y', '\n', 'x']
          edits := [⟨documentRange ['%', 'm', '\n', 'x'], ['%', 'm', '\n', 'y', '\n', 'x']⟩]
          batches := [[above]]
          whole := true
          rounds := 2 },
        ⟨(), [.applying 0 "organize-imports" [.ofEdit above]]⟩) := by
    with_unfolding_all rfl
  exact ⟨_, _, h, rfl, rfl, formatDocument_replays _ _ h⟩

end TidyImports
