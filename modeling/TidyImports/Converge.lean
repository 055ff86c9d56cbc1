import TidyImports.Edit.Normalize
import TidyImports.Linter.Launch

/-!
# Fixing until nothing changes

One round lets every configuration propose edits for the text that the ones before it left, and
applies them. Rounds follow one another until one leaves the text as it was, or until the limit is
passed. The text and the batches that led to it are kept together, and a failure of the linter or
of the limit carries both.
-/

namespace TidyImports

/-- A text and the batches that were applied to reach it. -/
structure Progress where
  text : Text
  batches : List Batch

structure Converged where
  text : Text
  batches : List Batch
  rounds : Nat

/-- Whether anything was applied, even if the text came out as it was. -/
def Converged.changed (c : Converged) : Bool := !c.batches.isEmpty

section

variable {σ : Type} (linter : Linter σ)

/-- Asks the linter; its failure is told how far the run had come. -/
def ask (p : Progress) (config : Config) : Run σ (List Diagnostic) :=
  tryCatch (linter p.text config) fun
    | .linter fault _ _ => Run.fail (.linter fault p.text p.batches)
    | failure => Run.fail failure

/-- Proposals that are no edits end the run with the fault that they meet on the text. -/
def refuse (round : Nat) (p : Progress) (config : Config) (proposals : List Proposal) :
    Run σ Progress := do
  let batch ← Run.ofExcept (Proposal.normalize proposals)
  let label ← Run.ofExcept config.label
  Run.notify (.applying round label batch)
  let _ ← Run.ofExcept (Proposal.tryAll p.text batch)
  Run.fail (.misuse .wrongKind)

/-- Lets one configuration fix the text. -/
def pass (round : Nat) (p : Progress) (config : Config) : Run σ Progress := do
  let proposals := Diagnostic.proposals (← ask linter p config)
  match Proposal.batch? proposals with
  | none => refuse round p config proposals
  | some edits =>
    match normalize edits with
    | [] => pure p
    | batch => do
      let label ← Run.ofExcept config.label
      Run.notify (.applying round label (batch.map .ofEdit))
      let text ← Run.ofExcept ((applyAll p.text batch).mapError .patch)
      pure ⟨text, p.batches ++ [batch]⟩

def round (n : Nat) (p : Progress) : List Config → Run σ Progress
  | [] => pure p
  | config :: rest => do round n (← pass linter n p config) rest

/-- Rounds from number `n` on, `left` more at most. -/
def settle (limit : Nat) (configs : List Config) :
    (left n : Nat) → Progress → Run σ Converged
  | 0, _, p => Run.fail (.depthLimit limit p.text p.batches)
  | left + 1, n, p => do
    let q ← round linter n p configs
    if q.text = p.text then pure ⟨q.text, q.batches, n + 1⟩
    else settle limit configs left (n + 1) q

/-- Fixes a text; the greatest number of a round is `limit`. -/
def converge (limit : Nat) (text : Text) (configs : List Config) : Run σ Converged :=
  settle linter limit configs (limit + 1) 0 ⟨text, []⟩

end

/-- A limit given as an integer. -/
def depthLimit (n : Int) : Except Failure Nat :=
  if n < 0 then .error SettingsFault.depthLimitLow.failure else .ok n.toNat

end TidyImports
