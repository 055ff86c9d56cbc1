import TidyImports.Format
import TidyImports.Proofs.Session

/-!
# Two runs side by side

`Run.Follows S` says of two runs that, from sessions related by `S`, they end alike and leave
related sessions. Every step of formatting passes this on from the linters that it asks, as long as
notices that both sides write do not disturb `S` (`Run.Steady`). `Run.Agrees R` is the case where
worlds are related by `R` and logs do not count, and `Linter.Agrees` says so of two linters.

* With equality of a part of the world for `R`, a run does not change that part.
* With the relation that holds always, what a run comes to depends on its input alone.
* With sessions that differ by a record of calls for `S`, the record has no influence.

The lemmas follow the definitions from `collectNames_follows` to `formatCells_agrees`.
-/

namespace TidyImports

namespace Run

variable {σ τ α β : Type} {S : Session σ → Session τ → Prop} {R : σ → τ → Prop}

/-! ## Rules -/

/-- From related sessions both runs end alike and leave related sessions. -/
def Follows (S : Session σ → Session τ → Prop) (run : Run σ α) (run' : Run τ α) : Prop :=
  ∀ s t, S s t → (run.outcome s).1 = (run'.outcome t).1 ∧ S (run.outcome s).2 (run'.outcome t).2

/-- Sessions stay related when a notice is written to both logs. -/
def Steady (S : Session σ → Session τ → Prop) : Prop :=
  ∀ s t n, S s t → S { s with log := s.log ++ [n] } { t with log := t.log ++ [n] }

theorem follows_pure (a : α) : Follows S (pure a) (pure a) := fun _ _ h => ⟨rfl, h⟩

theorem follows_fail (f : Failure) : Follows S (fail f : Run σ α) (fail f) := fun _ _ h => ⟨rfl, h⟩

theorem follows_ofExcept (r : Except Failure α) : Follows S (ofExcept r) (ofExcept r) := by
  intro s t h
  rw [outcome_ofExcept, outcome_ofExcept]
  exact ⟨rfl, h⟩

theorem follows_notify (hS : Steady S) (n : Notice) : Follows S (notify n) (notify n) :=
  fun s t h => ⟨rfl, hS s t n h⟩

theorem follows_bind {run : Run σ α} {run' : Run τ α} {next : α → Run σ β} {next' : α → Run τ β}
    (h : Follows S run run') (k : ∀ a, Follows S (next a) (next' a)) :
    Follows S (run >>= next) (run' >>= next') := by
  intro s t hr
  obtain ⟨hsame, hrel⟩ := h s t hr
  rw [outcome_bind, outcome_bind]
  cases hs : run.outcome s with
  | mk result s₁ =>
    cases ht : run'.outcome t with
    | mk result' t₁ =>
      rw [hs, ht] at hsame hrel
      simp only at hsame hrel
      subst hsame
      cases result with
      | ok a => exact k a s₁ t₁ hrel
      | error f => exact ⟨rfl, hrel⟩

theorem follows_tryCatch {run : Run σ α} {run' : Run τ α} {handle : Failure → Run σ α}
    {handle' : Failure → Run τ α} (h : Follows S run run')
    (k : ∀ f, Follows S (handle f) (handle' f)) :
    Follows S (tryCatch run handle) (tryCatch run' handle') := by
  intro s t hr
  obtain ⟨hsame, hrel⟩ := h s t hr
  rw [outcome_tryCatch, outcome_tryCatch]
  cases hs : run.outcome s with
  | mk result s₁ =>
    cases ht : run'.outcome t with
    | mk result' t₁ =>
      rw [hs, ht] at hsame hrel
      simp only at hsame hrel
      subst hsame
      cases result with
      | ok a => exact ⟨rfl, hrel⟩
      | error f => exact k f s₁ t₁ hrel

/-! ## Related worlds -/

/-- From related worlds both runs end alike and leave related worlds. -/
def Agrees (R : σ → τ → Prop) (run : Run σ α) (run' : Run τ α) : Prop :=
  ∀ s t, R s.world t.world → (run.outcome s).1 = (run'.outcome t).1 ∧
    R (run.outcome s).2.world (run'.outcome t).2.world

/-- Logs do not count. -/
theorem steady_worlds (R : σ → τ → Prop) :
    Steady (fun (s : Session σ) (t : Session τ) => R s.world t.world) :=
  fun _ _ _ h => h

theorem agrees_pure (a : α) : Agrees R (pure a) (pure a) := follows_pure a

theorem agrees_fail (f : Failure) : Agrees R (fail f : Run σ α) (fail f) := follows_fail f

theorem agrees_ofExcept (r : Except Failure α) : Agrees R (ofExcept r) (ofExcept r) :=
  follows_ofExcept r

theorem agrees_step {f : σ → α × σ} {g : τ → α × τ}
    (h : ∀ w w', R w w' → (f w).1 = (g w').1 ∧ R (f w).2 (g w').2) : Agrees R (step f) (step g) :=
  fun s t hr => by
    obtain ⟨hsame, hrel⟩ := h s.world t.world hr
    exact ⟨congrArg Except.ok hsame, hrel⟩

theorem agrees_bind {run : Run σ α} {run' : Run τ α} {next : α → Run σ β} {next' : α → Run τ β}
    (h : Agrees R run run') (k : ∀ a, Agrees R (next a) (next' a)) :
    Agrees R (run >>= next) (run' >>= next') :=
  follows_bind h k

end Run

/-! ## Undefined names -/

section

variable {σ τ : Type} {S : Session σ → Session τ → Prop} {linter : Linter σ} {linter' : Linter τ}

open Run (Follows Steady follows_pure follows_fail follows_ofExcept follows_notify follows_bind
  follows_tryCatch)

theorem collectNames_follows (hS : Steady S) (names : List String) (ds : List Diagnostic) :
    Follows S (collectNames names ds) (collectNames names ds) := by
  induction ds generalizing names with
  | nil => exact follows_pure names
  | cons d rest ih =>
    rw [collectNames, collectNames]
    split
    · exact ih names
    · split
      · split
        · exact ih _
        · simp only
          split
          · exact follows_bind (follows_notify hS _) fun _ => ih names
          · exact ih names
      · exact follows_fail _

/-- The linters are asked for undefined names only. -/
theorem undefinedSymbols_follows (hS : Steady S)
    (h : ∀ text, Follows S (linter text .undefinedNames) (linter' text .undefinedNames))
    (text : Text) : Follows S (undefinedSymbols linter text) (undefinedSymbols linter' text) :=
  follows_bind (h text) (collectNames_follows hS [])

theorem resolvable_follows (hS : Steady S)
    (h : ∀ text, Follows S (linter text .undefinedNames) (linter' text .undefinedNames))
    (map : ImportMap) (text : Text) :
    Follows S (resolvable linter map text) (resolvable linter' map text) :=
  follows_bind (undefinedSymbols_follows hS h text) fun _ => follows_pure _

theorem effectiveSymbols_follows (hS : Steady S)
    (h : ∀ text, Follows S (linter text .undefinedNames) (linter' text .undefinedNames))
    (map : ImportMap) (text : Text) (context : UnitContext) :
    Follows S (effectiveSymbols linter map text context)
      (effectiveSymbols linter' map text context) := by
  unfold effectiveSymbols
  split
  · exact resolvable_follows hS h map text
  · refine follows_bind (follows_ofExcept _) fun (cells, index) => ?_
    refine follows_bind (resolvable_follows hS h map text) fun alone => ?_
    split
    · exact follows_pure alone
    · refine follows_bind (resolvable_follows hS h map _) fun inOrder => ?_
      exact follows_bind (follows_notify hS _) fun _ => follows_pure _

theorem effectiveImports_follows (hS : Steady S)
    (h : ∀ text, Follows S (linter text .undefinedNames) (linter' text .undefinedNames))
    (map : ImportMap) (text : Text) (context : UnitContext) :
    Follows S (effectiveImports linter map text context)
      (effectiveImports linter' map text context) :=
  follows_bind (effectiveSymbols_follows hS h map text context) fun _ => follows_pure _

/-! ## Fixing -/

theorem ask_follows {p : Progress} {config : Config}
    (h : Follows S (linter p.text config) (linter' p.text config)) :
    Follows S (ask linter p config) (ask linter' p config) := by
  refine follows_tryCatch h fun f => ?_
  cases f <;> exact follows_fail _

theorem refuse_follows (hS : Steady S) (n : Nat) (p : Progress) (config : Config)
    (proposals : List Proposal) :
    Follows S (refuse n p config proposals) (refuse n p config proposals) := by
  refine follows_bind (follows_ofExcept _) fun batch => ?_
  refine follows_bind (follows_ofExcept _) fun label => ?_
  refine follows_bind (follows_notify hS _) fun _ => ?_
  exact follows_bind (follows_ofExcept _) fun _ => follows_fail _

theorem pass_follows (hS : Steady S) (n : Nat) {p : Progress} {config : Config}
    (h : Follows S (linter p.text config) (linter' p.text config)) :
    Follows S (pass linter n p config) (pass linter' n p config) := by
  refine follows_bind (ask_follows h) fun diagnostics => ?_
  simp only
  split
  · exact refuse_follows hS n p config _
  · split
    · exact follows_pure p
    · refine follows_bind (follows_ofExcept _) fun label => ?_
      refine follows_bind (follows_notify hS _) fun _ => ?_
      exact follows_bind (follows_ofExcept _) fun _ => follows_pure _

/-- The linters are asked with the given configurations only. -/
theorem round_follows (hS : Steady S) (n : Nat) (p : Progress) {configs : List Config}
    (h : ∀ config ∈ configs, ∀ text, Follows S (linter text config) (linter' text config)) :
    Follows S (round linter n p configs) (round linter' n p configs) := by
  induction configs generalizing p with
  | nil => exact follows_pure p
  | cons config rest ih =>
    rw [List.forall_mem_cons] at h
    exact follows_bind (pass_follows hS n (h.1 p.text)) fun q => ih q h.2

theorem settle_follows (hS : Steady S) (limit : Nat) {configs : List Config}
    (h : ∀ config ∈ configs, ∀ text, Follows S (linter text config) (linter' text config))
    (left n : Nat) (p : Progress) :
    Follows S (settle linter limit configs left n p) (settle linter' limit configs left n p) := by
  induction left generalizing n p with
  | zero => exact follows_fail _
  | succ left ih =>
    refine follows_bind (round_follows hS n p h) fun q => ?_
    split
    · exact follows_pure _
    · exact ih (n + 1) q

theorem converge_follows (hS : Steady S) (limit : Nat) (text : Text) {configs : List Config}
    (h : ∀ config ∈ configs, ∀ text, Follows S (linter text config) (linter' text config)) :
    Follows S (converge linter limit text configs) (converge linter' limit text configs) :=
  settle_follows hS limit h (limit + 1) 0 ⟨text, []⟩

end

/-! ## Linters that agree -/

section

variable {σ τ : Type} {R : σ → τ → Prop} {linter : Linter σ} {linter' : Linter τ}

open Run (Agrees steady_worlds agrees_pure agrees_fail agrees_ofExcept agrees_step agrees_bind)

def Linter.Agrees (R : σ → τ → Prop) (linter : Linter σ) (linter' : Linter τ) : Prop :=
  ∀ text config, Run.Agrees R (linter text config) (linter' text config)

theorem ofLauncher_agrees {launch : Launcher σ} {launch' : Launcher τ}
    (h : ∀ arguments text w w', R w w' →
      (launch arguments text w).1 = (launch' arguments text w').1 ∧
        R (launch arguments text w).2 (launch' arguments text w').2) (call : Call) :
    Linter.Agrees R (.ofLauncher call launch) (.ofLauncher call launch') := by
  intro text config
  refine agrees_bind (agrees_ofExcept _) fun arguments => ?_
  refine agrees_bind (agrees_step (h arguments text)) fun outcome => ?_
  refine agrees_bind (agrees_ofExcept _) fun diagnostics => ?_
  refine agrees_bind (agrees_ofExcept _) fun label => ?_
  exact agrees_bind (Run.follows_notify (steady_worlds R) _) fun _ => agrees_pure _

/-! ## Formatting -/

theorem formatDocument_agrees (h : Linter.Agrees R linter linter') (snapshot : Snapshot)
    (text : Text) (request : Request) :
    Agrees R (formatDocument linter snapshot text request)
      (formatDocument linter' snapshot text request) := by
  have hS := steady_worlds R
  unfold formatDocument
  simp only
  split
  · exact agrees_fail _
  · refine agrees_bind (effectiveImports_follows hS (fun t => h t _) _ _ _) fun effective => ?_
    split
    · exact agrees_bind (Run.follows_notify hS _) fun _ => agrees_pure _
    · exact agrees_bind (converge_follows hS _ _ fun config _ t => h t config) fun _ =>
        agrees_pure _

theorem formatCell_agrees (h : Linter.Agrees R linter linter') (snapshot : Snapshot)
    (notebook : Notebook) (index : Int) (full : Bool) :
    Agrees R (formatCell linter snapshot notebook index full)
      (formatCell linter' snapshot notebook index full) := by
  refine agrees_bind (agrees_ofExcept _) fun (cells, i) => ?_
  simp only
  split
  · exact agrees_fail _
  · split
    · exact agrees_pure _
    · exact agrees_bind (formatDocument_agrees h snapshot _ _) fun _ => agrees_pure _

/-! ## Formatting notebooks -/

/-- What a run over cells comes to with the first of them. -/
theorem formatCells_cons (linter : Linter σ) (snapshot : Snapshot) (full : Bool)
    (notebook : Notebook) (i : Nat) (rest : List Nat) (s : Session σ) :
    (formatCells linter snapshot full notebook (i :: rest)).run s =
      match (formatCell linter snapshot notebook i full).outcome s with
      | (.error f, t) => (⟨notebook, [], some f⟩, t)
      | (.ok (notebook, result), t) =>
        let reached := (formatCells linter snapshot full notebook rest).run t
        ({ reached.1 with results := result :: reached.1.results }, reached.2) := by
  rw [formatCells]
  simp only [bind, StateT.bind, StateT.run, Run.outcome, ExceptT.run]
  cases formatCell linter snapshot notebook i full s with
  | mk outcome t =>
    cases outcome with
    | error f => rfl
    | ok reached => rfl

theorem formatCells_agrees (h : Linter.Agrees R linter linter') (snapshot : Snapshot) (full : Bool)
    (notebook : Notebook) (indices : List Nat) :
    Agrees R (ExceptT.lift (formatCells linter snapshot full notebook indices))
      (ExceptT.lift (formatCells linter' snapshot full notebook indices)) := by
  intro s t hr
  rw [Run.outcome_lift, Run.outcome_lift]
  induction indices generalizing notebook s t with
  | nil => exact ⟨rfl, hr⟩
  | cons i rest ih =>
    obtain ⟨hsame, hrel⟩ := formatCell_agrees h snapshot notebook i full s t hr
    rw [formatCells_cons, formatCells_cons]
    cases hs : (formatCell linter snapshot notebook i full).outcome s with
    | mk result s₁ =>
      cases ht : (formatCell linter' snapshot notebook i full).outcome t with
      | mk result' t₁ =>
        rw [hs, ht] at hsame hrel
        simp only at hsame hrel
        subst hsame
        cases result with
        | error f => exact ⟨rfl, hrel⟩
        | ok reached =>
          obtain ⟨hrest, hlast⟩ := ih reached.1 s₁ t₁ hrel
          simp only [Except.ok.injEq] at hrest
          exact ⟨by simp only [hrest], hlast⟩

end
end TidyImports
