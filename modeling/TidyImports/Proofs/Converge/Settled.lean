import TidyImports.Proofs.Converge.Trail

/-!
# What a run leaves settled

A run returns when a whole round has left the text as it was. For a linter without memory this makes
the text a fixed point of the round, but not of each pass: the passes of a round may undo one
another.

* `all_settled_or_undone` — in a round that ends on the text it began with, every pass leaves the
  text alone, or one changes it and a later one changes it back.
* `converge_settled_iff` — what this says of the text that a run returns, and of a second run on it.
* `converge_not_settled` — two passes, of which the second undoes the first.
-/

namespace TidyImports

/-! ## Rounds that end where they began -/

section

variable {α β : Type}

/-- On the way through `passes` one of them changes `a`, and a later one changes it back. -/
def Undone (f : α → β → Option α) (passes : List β) (a : α) : Prop :=
  ∃ before x between y after away back, passes = before ++ x :: between ++ y :: after ∧
    before.foldlM f a = some a ∧ f a x = some away ∧ away ≠ a ∧
    between.foldlM f away = some back ∧ back ≠ a ∧ f back y = some a

variable {f : α → β → Option α}

theorem Undone.cons {passes : List β} {a : α} {x : β} (h : Undone f passes a)
    (hx : f a x = some a) : Undone f (x :: passes) a := by
  obtain ⟨before, y, between, z, after, away, back, rfl, hbefore, hrest⟩ := h
  refine ⟨x :: before, y, between, z, after, away, back, rfl, ?_, hrest⟩
  rw [List.foldlM_cons, hx]
  exact hbefore

/-- Passes that lead from elsewhere to `a` have one that leads there at last. -/
theorem exists_pass_back [DecidableEq α] {passes : List β} {a away : α} (hne : away ≠ a)
    (h : passes.foldlM f away = some a) :
    ∃ between y after back, passes = between ++ y :: after ∧ between.foldlM f away = some back ∧
      back ≠ a ∧ f back y = some a := by
  induction passes generalizing away with
  | nil => exact absurd (Option.some.inj h) hne
  | cons x rest ih =>
    rw [List.foldlM_cons] at h
    obtain ⟨next, hx, hrest⟩ := Option.bind_eq_some_iff.mp h
    by_cases hnext : next = a
    · subst hnext
      exact ⟨[], x, rest, away, rfl, rfl, hne, hx⟩
    · obtain ⟨between, y, after, back, rfl, hbetween, hback⟩ := ih hnext hrest
      refine ⟨x :: between, y, after, back, rfl, ?_, hback⟩
      rw [List.foldlM_cons, hx]
      exact hbetween

theorem all_settled_or_undone [DecidableEq α] {passes : List β} {a : α}
    (h : passes.foldlM f a = some a) : (∀ x ∈ passes, f a x = some a) ∨ Undone f passes a := by
  induction passes with
  | nil => exact Or.inl (by simp)
  | cons x rest ih =>
    rw [List.foldlM_cons] at h
    obtain ⟨next, hx, hrest⟩ := Option.bind_eq_some_iff.mp h
    by_cases hnext : next = a
    · subst hnext
      rcases ih hrest with hall | hundone
      · exact Or.inl (List.forall_mem_cons.mpr ⟨hx, hall⟩)
      · exact Or.inr (hundone.cons hx)
    · obtain ⟨between, y, after, back, rfl, hback⟩ := exists_pass_back hnext hrest
      exact Or.inr ⟨[], x, between, y, after, next, back, rfl, rfl, hx, hnext, hback⟩

theorem Undone.not_all_settled {passes : List β} {a : α} (h : Undone f passes a) :
    ¬ ∀ x ∈ passes, f a x = some a := by
  obtain ⟨before, x, between, y, after, away, back, rfl, -, hx, hne, -⟩ := h
  intro hall
  have hself := hall x (by simp)
  rw [hx] at hself
  exact hne (Option.some.inj hself)

/-- Each pass leaves `a` alone exactly when none of the passes on the way through them leads away
from it. -/
theorem all_settled_iff_prefixes {passes : List β} {a : α} :
    (∀ x ∈ passes, f a x = some a) ↔ ∀ done, done <+: passes → done.foldlM f a = some a := by
  constructor
  · intro h done hdone
    have hall : ∀ x ∈ done, f a x = some a := fun x hx => h x (hdone.subset hx)
    clear hdone
    induction done with
    | nil => rfl
    | cons x rest ih =>
      obtain ⟨hx, hrest⟩ := List.forall_mem_cons.mp hall
      rw [List.foldlM_cons, hx]
      exact ih hrest
  · intro h x hx
    obtain ⟨before, after, rfl⟩ := List.append_of_mem hx
    have hbefore := h before (List.prefix_append _ _)
    have hupto := h (before ++ [x]) ⟨after, by simp⟩
    rw [List.foldlM_append, hbefore] at hupto
    simpa using hupto

end

/-! ## Linters without memory -/

/-- What the linter answers, be it a failure, depends on the text and the configuration alone. -/
def Linter.Functional {σ : Type} (linter : Linter σ)
    (answer : Text → Config → Except Failure (List Diagnostic)) : Prop :=
  ∀ text config s, ((linter text config).outcome s).1 = answer text config

/-- The text after one pass. There is none if the linter fails, or an edit is no text or lies
outside. -/
def afterAnswer? (answer : Text → Config → Except Failure (List Diagnostic)) (text : Text)
    (config : Config) : Option Text := do
  let diagnostics ← (answer text config).toOption
  let edits ← Proposal.batch? (Diagnostic.proposals diagnostics)
  (applyAll text (normalize edits)).toOption

section

variable {σ : Type} {linter : Linter σ}
  {answer : Text → Config → Except Failure (List Diagnostic)}

theorem Linter.Proposes.again (hl : linter.Functional answer) {text : Text} {config : Config}
    {s t : Session σ} {edits : List Edit} (h : linter.Proposes text config s edits t)
    (s' : Session σ) : ∃ t', linter.Proposes text config s' edits t' := by
  obtain ⟨diagnostics, hcall, hedits⟩ := h
  have hsame : ((linter text config).outcome s').1 = .ok diagnostics := by
    rw [hl, ← hl text config s, hcall]
  exact ⟨((linter text config).outcome s').2, diagnostics, Prod.ext hsame rfl, hedits⟩

theorem Linter.Proposes.afterAnswer?_eq (hl : linter.Functional answer) {text : Text}
    {config : Config} {s t : Session σ} {edits : List Edit}
    (h : linter.Proposes text config s edits t) :
    afterAnswer? answer text config = (applyAll text (normalize edits)).toOption := by
  obtain ⟨diagnostics, hcall, hedits⟩ := h
  have hanswer : answer text config = .ok diagnostics := by
    rw [← hl text config s, hcall]
  rw [afterAnswer?, hanswer]
  simp only [Except.toOption, hedits, Option.bind_eq_bind, Option.bind_some]

theorem Trail.foldlM_eq (hl : linter.Functional answer) {configs : List Config} {text final : Text}
    {s t : Session σ} {batches : List Batch} (h : Trail linter configs text s batches final t) :
    configs.foldlM (afterAnswer? answer) text = some final := by
  induction h with
  | nil => rfl
  | idle proposed none _ ih =>
    rw [List.foldlM_cons, proposed.afterAnswer?_eq hl, none]
    exact ih
  | fixed _ proposed normal _ _ applied _ ih =>
    rw [List.foldlM_cons, proposed.afterAnswer?_eq hl, normal, applied]
    exact ih

/-- From the same text, a round goes the same way in any session. -/
theorem Trail.round_again (hl : linter.Functional answer) {configs : List Config}
    {text final : Text} {s t : Session σ} {batches : List Batch}
    (h : Trail linter configs text s batches final t) (n : Nat) (done : List Batch)
    (s' : Session σ) :
    ∃ t', (round linter n ⟨text, done⟩ configs).outcome s' =
      (.ok ⟨final, done ++ batches⟩, t') := by
  induction h generalizing done s' with
  | nil =>
    rw [List.append_nil]
    exact ⟨s', rfl⟩
  | idle proposed none _ ih =>
    obtain ⟨u, hagain⟩ := proposed.again hl s'
    obtain ⟨t', hrest⟩ := ih done u
    refine ⟨t', ?_⟩
    rw [round, Run.outcome_bind, pass_idle n hagain none]
    exact hrest
  | @fixed _ _ _ _ _ _ _ _ _ batch _ label _ proposed normal some labelled applied _ ih =>
    obtain ⟨u, hagain⟩ := proposed.again hl s'
    have hpass := pass_fixed (p := ⟨_, done⟩) n hagain normal some labelled applied
    obtain ⟨t', hrest⟩ := ih (done ++ [batch])
      { u with log := u.log ++ [.applying n label (batch.map .ofEdit)] }
    refine ⟨t', ?_⟩
    rw [round, Run.outcome_bind, hpass]
    dsimp only
    rw [hrest, List.append_assoc, List.singleton_append]

/-- The text that a run returns goes through a further round, and comes out of it as it was. -/
theorem converge_last_round {limit : Nat} {text : Text} {configs : List Config} {s t : Session σ}
    {c : Converged} (h : (converge linter limit text configs).outcome s = (.ok c, t)) :
    ∃ u batches, Trail linter configs c.text u batches c.text t := by
  obtain ⟨k, q, u, -, hsame, -, batches, -, hlast⟩ :=
    (settle_trail linter limit configs (limit + 1) 0 ⟨text, []⟩ s).of_ok h
  rw [hsame] at hlast
  exact ⟨u, batches, hlast⟩

theorem converge_again (hl : linter.Functional answer) {configs : List Config} {text : Text}
    {u t : Session σ} {batches : List Batch} (h : Trail linter configs text u batches text t)
    (limit : Nat) (s : Session σ) :
    ∃ t', (converge linter limit text configs).outcome s = (.ok ⟨text, batches, 1⟩, t') := by
  obtain ⟨t', hround⟩ := h.round_again hl 0 [] s
  refine ⟨t', ?_⟩
  rw [converge, settle, Run.outcome_bind, hround]
  simp

/-- **Settled texts.** When a run returns and the linter has no memory, a whole round leaves the
text as it is, and a second run returns it after one round. Each pass alone leaves it as it is if
and only if no pass of the round changes it for a later pass to change back, and if and only if it
is the same after every single pass of that round. -/
theorem converge_settled_iff (hl : linter.Functional answer) {limit : Nat} {text : Text}
    {configs : List Config} {s t : Session σ} {c : Converged}
    (h : (converge linter limit text configs).outcome s = (.ok c, t)) :
    configs.foldlM (afterAnswer? answer) c.text = some c.text ∧
    (∀ limit' s', ∃ batches t',
      (converge linter limit' c.text configs).outcome s' = (.ok ⟨c.text, batches, 1⟩, t')) ∧
    ((∀ config ∈ configs, afterAnswer? answer c.text config = some c.text) ↔
      ¬ Undone (afterAnswer? answer) configs c.text) ∧
    ((∀ config ∈ configs, afterAnswer? answer c.text config = some c.text) ↔
      ∀ done, done <+: configs → done.foldlM (afterAnswer? answer) c.text = some c.text) := by
  obtain ⟨u, batches, htrail⟩ := converge_last_round h
  have hround := htrail.foldlM_eq hl
  refine ⟨hround, ?_, ?_, all_settled_iff_prefixes⟩
  · intro limit' s'
    exact ⟨batches, converge_again hl htrail limit' s'⟩
  · constructor
    · intro hall hundone
      exact hundone.not_all_settled hall
    · intro hnot
      exact (all_settled_or_undone hround).resolve_right hnot

end

/-! ## Passes that undo one another -/

def Config.there : Config := { select := some [.text "X001"], name := "there" }

def Config.back : Config := { select := some [.text "X002"], name := "back" }

/-- Under `Config.there` an `x` becomes a `y`, and under `Config.back` a `y` becomes an `x`. -/
def thereAndBack (text : Text) (config : Config) : Except Failure (List Diagnostic) :=
  let write (new : Text) : Diagnostic :=
    ⟨.null, .null, some [.ofEdit ⟨documentRange text, new⟩], none⟩
  if text = ['x'] ∧ config.same .there then .ok [write ['y']]
  else if text = ['y'] ∧ config.same .back then .ok [write ['x']]
  else .ok []

def Linter.answering (answer : Text → Config → Except Failure (List Diagnostic)) : Linter Unit :=
  fun text config => Run.ofExcept (answer text config)

theorem Linter.answering_functional
    (answer : Text → Config → Except Failure (List Diagnostic)) :
    (Linter.answering answer).Functional answer := by
  intro text config s
  rw [answering, Run.outcome_ofExcept]

theorem converge_thereAndBack :
    ∃ batches t, (converge (Linter.answering thereAndBack) 0 ['x'] [.there, .back]).outcome
      (.start ()) = (.ok ⟨['x'], batches, 1⟩, t) := by
  refine ⟨[[⟨documentRange ['x'], ['y']⟩], [⟨documentRange ['y'], ['x']⟩]],
    ⟨(), [.applying 0 "there" [.ofEdit ⟨documentRange ['x'], ['y']⟩],
      .applying 0 "back" [.ofEdit ⟨documentRange ['y'], ['x']⟩]]⟩, ?_⟩
  with_unfolding_all rfl

theorem there_not_settled :
    ¬ ∀ config ∈ [Config.there, .back], afterAnswer? thereAndBack ['x'] config = some ['x'] := by
  intro hall
  have hthere : afterAnswer? thereAndBack ['x'] .there = some ['y'] := by
    with_unfolding_all rfl
  have hself := hall .there (by simp)
  rw [hthere] at hself
  exact absurd hself (by decide)

/-- The run returns after one round, though its first pass would change the text that it returns. -/
theorem converge_not_settled :
    (Linter.answering thereAndBack).Functional thereAndBack ∧
    ∃ c t, (converge (Linter.answering thereAndBack) 0 ['x'] [.there, .back]).outcome (.start ()) =
        (.ok c, t) ∧
      ¬ ∀ config ∈ [Config.there, .back],
        afterAnswer? thereAndBack c.text config = some c.text := by
  obtain ⟨batches, t, ho⟩ := converge_thereAndBack
  exact ⟨Linter.answering_functional _, _, t, ho, there_not_settled⟩

/-- As its text is not settled, passes of the round undo one another. -/
theorem converge_settled_iff_undone :
    ∃ c t, (converge (Linter.answering thereAndBack) 0 ['x'] [.there, .back]).outcome (.start ()) =
        (.ok c, t) ∧
      Undone (afterAnswer? thereAndBack) [.there, .back] c.text := by
  obtain ⟨batches, t, ho⟩ := converge_thereAndBack
  obtain ⟨-, -, hiff, -⟩ := converge_settled_iff (Linter.answering_functional _) ho
  refine ⟨_, t, ho, ?_⟩
  apply Classical.byContradiction
  intro hnot
  exact there_not_settled (hiff.mpr hnot)

end TidyImports
