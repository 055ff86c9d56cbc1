import TidyImports.Proofs.Converge.Trail
import TidyImports.Proofs.Format.Agreement
import TidyImports.Proofs.Names.Statements

/-!
# Which passes a request runs

After the analysis of undefined names a request asks the linter for missing, unused and unsorted
imports, as far as the settings and the place of the text allow.

* `Linter.noted` — a linter whose calls are kept, `Notes` — the sessions with and without them;
* `Pass.Applies`, `Pass.Asks` — when a pass is run, and what its calls ask for;
* `extend_texts` — the statements that every file gets, behind those of the missing names;
* `formatDocument_passes` — the calls of a request that returns.
-/

namespace TidyImports

/-! ## Noted calls -/

/-- Hands each call on to another linter and keeps the calls, the latest last. -/
def Linter.noted {σ : Type} (linter : Linter σ) : Linter (σ × List (Text × Config)) :=
  fun text config => ExceptT.mk fun s =>
    let (result, t) := (linter text config).outcome ⟨s.world.1, s.log⟩
    (result, ⟨(t.world, s.world.2 ++ [(text, config)]), t.log⟩)

/-- The session with the calls so far beside its world. -/
def Session.noting {σ : Type} (s : Session σ) (calls : List (Text × Config)) :
    Session (σ × List (Text × Config)) :=
  ⟨(s.world, calls), s.log⟩

section

variable {σ α : Type} {linter : Linter σ} {before : List (Text × Config)} {allowed : Config → Prop}

/-- The sessions differ by the calls that were kept: some from before, and others that are all
allowed. -/
def Notes (before : List (Text × Config)) (allowed : Config → Prop) (s : Session σ)
    (t : Session (σ × List (Text × Config))) : Prop :=
  ∃ new, (∀ call ∈ new, allowed call.2) ∧ t = s.noting (before ++ new)

theorem steady_notes : Run.Steady (Notes (σ := σ) before allowed) := by
  rintro s _ n ⟨new, hnew, rfl⟩
  exact ⟨new, hnew, rfl⟩

/-- Keeping the calls does not change what the linter does. -/
theorem noted_follows {config : Config} (h : allowed config) (text : Text) :
    Run.Follows (Notes before allowed) (linter text config) (linter.noted text config) := by
  rintro s _ ⟨new, hnew, rfl⟩
  refine ⟨rfl, new ++ [(text, config)], ?_, ?_⟩
  · rw [List.forall_mem_append]
    exact ⟨hnew, by simpa using h⟩
  · rw [← List.append_assoc]
    rfl

theorem Run.Follows.noted_outcome {run : Run σ α} {run' : Run (σ × List (Text × Config)) α}
    (h : Run.Follows (Notes before allowed) run run') {s t : Session σ}
    {result : Except Failure α} (ho : run.outcome s = (result, t)) :
    ∃ new, (∀ call ∈ new, allowed call.2) ∧
      run'.outcome (s.noting before) = (result, t.noting (before ++ new)) := by
  obtain ⟨hresult, new, hnew, hsession⟩ := h s (s.noting before) ⟨[], by simp, by simp⟩
  rw [ho] at hresult hsession
  exact ⟨new, hnew, Prod.ext hresult.symm hsession⟩

/-- The analysis asks for undefined names only. -/
theorem effectiveImports_noted (linter : Linter σ) (before : List (Text × Config))
    (map : ImportMap) (text : Text) (context : UnitContext) :
    Run.Follows (Notes before fun config => config = .undefinedNames)
      (effectiveImports linter map text context)
      (effectiveImports linter.noted map text context) := by
  refine effectiveImports_follows steady_notes (fun asked => ?_) map text context
  exact noted_follows (by rfl) asked

theorem converge_noted (linter : Linter σ) (before : List (Text × Config)) (limit : Nat)
    (text : Text) (configs : List Config) :
    Run.Follows (Notes before fun _ => True) (converge linter limit text configs)
      (converge linter.noted limit text configs) :=
  converge_follows steady_notes limit text fun _ _ => noted_follows trivial

/-! ## Calls of a trail -/

/-- A call that was made is kept. -/
theorem Linter.Proposes.noted_calls {text : Text} {config : Config} {edits : List Edit}
    {s t : Session (σ × List (Text × Config))} (h : linter.noted.Proposes text config s edits t) :
    t.world.2 = s.world.2 ++ [(text, config)] := by
  obtain ⟨diagnostics, ho, -⟩ := h
  exact congrArg (fun r => r.2.world.2) ho.symm

/-- A trail has kept the calls that it is made of. -/
theorem Trail.noted_calls {configs : List Config} {text final : Text} {batches : List Batch}
    {s t : Session (σ × List (Text × Config))}
    (h : Trail linter.noted configs text s batches final t) :
    ∃ new, t.world.2 = s.world.2 ++ new ∧ new.map Prod.snd = configs := by
  induction h with
  | nil => exact ⟨[], by simp, rfl⟩
  | @idle text _ _ _ _ config _ _ _ proposed none rest ih =>
    obtain ⟨new, hnew, rfl⟩ := ih
    refine ⟨(text, config) :: new, ?_, rfl⟩
    rw [hnew, proposed.noted_calls, List.append_assoc, List.singleton_append]
  | @fixed text _ _ _ _ _ config _ _ _ _ _ round proposed normal some labelled applied rest ih =>
    obtain ⟨new, hnew, rfl⟩ := ih
    refine ⟨(text, config) :: new, ?_, rfl⟩
    rw [hnew, proposed.noted_calls, List.append_assoc, List.singleton_append]

/-- A run that returns makes the calls of whole rounds, of one at least. -/
theorem converge_noted_calls {limit : Nat} {text : Text} {configs : List Config}
    {s t : Session (σ × List (Text × Config))} {c : Converged}
    (h : (converge linter.noted limit text configs).outcome s = (.ok c, t)) :
    ∃ new rounds, t.world.2 = s.world.2 ++ new ∧
      new.map Prod.snd = callsOf configs rounds ++ configs := by
  have htrail := settle_trail linter.noted limit configs (limit + 1) 0 ⟨text, []⟩ s
  obtain ⟨rounds, q, u, -, -, hrounds, hlast⟩ := htrail.of_ok h
  obtain ⟨new, hnew, hcalls⟩ := (hrounds.trans hlast).trail.noted_calls
  exact ⟨new, rounds, hnew, hcalls⟩

end

/-! ## The statements to ensure -/

theorem Value.any_same_text_iff {s : String} {vs : List Value} :
    vs.any (Value.text s).same = true ↔ Value.text s ∈ vs := by
  simp only [List.any_eq_true, text_same_iff, exists_eq_right]

theorem sublist_dedup_cons {added rest : List String} {s : String}
    (h : added.Sublist (dedup rest)) (hs : s ∉ added) :
    added.Sublist ((dedup rest).filter (· ≠ s)) := by
  rw [← List.filter_eq_self.mpr fun st hst => decide_eq_true (ne_of_mem_of_not_mem hst hs)]
  exact h.filter _

/-- The texts that are added are those that are not there yet, each once and in order. -/
theorem extend_texts (imports : List Value) (texts : List String) :
    ∃ added : List String, extend imports (texts.map .text) = imports ++ added.map .text ∧
      added.Sublist (dedup texts) ∧
      ∀ st, st ∈ added ↔ st ∈ texts ∧ Value.text st ∉ imports := by
  induction texts generalizing imports with
  | nil => exact ⟨[], by simp [extend], List.Sublist.refl _, by simp⟩
  | cons s rest ih =>
    rw [List.map_cons, extend]
    by_cases hs : Value.text s ∈ imports
    · rw [if_pos (Value.any_same_text_iff.mpr hs)]
      obtain ⟨added, hextend, hsub, hmem⟩ := ih imports
      have hnot : s ∉ added := fun h => ((hmem s).mp h).2 hs
      refine ⟨added, hextend, (sublist_dedup_cons hsub hnot).cons s, fun st => ?_⟩
      rw [hmem, List.mem_cons]
      refine and_congr_left fun hst => ⟨Or.inr, fun h => h.resolve_left ?_⟩
      rintro rfl
      exact hst hs
    · rw [if_neg (fun h => hs (Value.any_same_text_iff.mp h))]
      obtain ⟨added, hextend, hsub, hmem⟩ := ih (imports ++ [.text s])
      have hnot : s ∉ added := fun h => ((hmem s).mp h).2 (by simp)
      refine ⟨s :: added, ?_, (sublist_dedup_cons hsub hnot).cons_cons s, fun st => ?_⟩
      · rw [hextend, List.append_assoc]
        rfl
      · rw [List.mem_cons, hmem, List.mem_cons]
        by_cases hst : st = s
        · simp [hst, hs]
        · simp [hst]

theorem effectiveImports_distinct {σ : Type} (linter : Linter σ) (map : ImportMap) (text : Text)
    (context : UnitContext) :
    (effectiveImports linter map text context).Ends Value.Distinct fun _ => True :=
  Run.ends_bind (Run.ends_any _) fun names _ => Run.ends_pure (distinct_importsFor names map)

/-- The statements to ensure, given those of the missing names: in a cell and in the file of a
package only these, elsewhere behind them the ones that every file gets and that are not there yet,
in the order of their declaration. -/
structure Ensured (settings : Settings) (request : Request) (effective required : List Value) :
    Prop where
  distinct : Value.Distinct required
  bare : request.context.isCell = true ∨ request.isPackageInit = true → required = effective
  added : request.context.isCell = false → request.isPackageInit = false →
    ∃ added : List String, required = effective ++ added.map .text ∧
      added.Sublist (dedup settings.alwaysImport) ∧
      ∀ st, st ∈ added ↔ st ∈ settings.alwaysImport ∧ Value.text st ∉ effective

theorem ensured_requiredImports (settings : Settings) (request : Request) {effective : List Value}
    (h : Value.Distinct effective) :
    Ensured settings request effective (requiredImports settings request effective) := by
  unfold requiredImports
  cases hcell : request.context.isCell with
  | true => exact ⟨h, fun _ => rfl, fun hfree => by simp [hcell] at hfree⟩
  | false =>
    cases hinit : request.isPackageInit with
    | true => exact ⟨h, fun _ => rfl, fun _ hfree => by simp [hinit] at hfree⟩
    | false =>
      exact ⟨distinct_extend h _, by simp [hcell, hinit], fun _ _ => extend_texts effective _⟩

/-! ## Passes -/

inductive Pass where
  | add
  | remove
  | organize
  deriving DecidableEq, Repr

namespace Pass

def rule : Pass → String
  | .add => Config.missingRule
  | .remove => Config.unusedRule
  | .organize => Config.unsortedRule

/-- Missing statements are added wherever there are any; unused imports are removed on a full format
of a file that is no package's own, and imports are sorted there and in cells. -/
def Applies (settings : Settings) (request : Request) (required : List Value) : Pass → Prop
  | .add => required ≠ []
  | .remove => request.full = true ∧ settings.removeUnused.truthy = true ∧
      request.context.isCell = false ∧ request.isPackageInit = false
  | .organize => request.full = true ∧ settings.organize.truthy = true ∧
      request.isPackageInit = false

/-- The configuration selects the rule of the pass alone. To add is to ask for the statements to
ensure, and to remove is to keep the ones that every file gets. -/
def Asks (settings : Settings) (required : List Value) (config : Config) (p : Pass) : Prop :=
  config.select = some [.text p.rule] ∧
    match p with
    | .add => config.requiredImports = some required
    | .remove => ∃ keep, config.requiredImports = some keep ∧
        ∀ st ∈ settings.alwaysImport, Value.text st ∈ keep
    | .organize => config.requiredImports = none

/-- The configuration of a pass. -/
def config (settings : Settings) (required : List Value) : Pass → Config
  | .add => .addImports required (.int settings.linesAfter)
  | .remove => .removeUnused (settings.alwaysImport.map .text)
  | .organize => .organizeImports (.int settings.lineLength) (.int settings.linesAfter)

theorem asks_config (settings : Settings) (required : List Value) (p : Pass) :
    p.Asks settings required (p.config settings required) := by
  cases p with
  | add => exact ⟨rfl, rfl⟩
  | remove => exact ⟨rfl, _, rfl, fun st hst => List.mem_map_of_mem hst⟩
  | organize => exact ⟨rfl, rfl⟩

theorem exists_iff {P : Pass → Prop} : (∃ p, P p) ↔ P .add ∨ P .remove ∨ P .organize := by
  constructor
  · rintro ⟨p, hp⟩
    cases p with
    | add => exact Or.inl hp
    | remove => exact Or.inr (Or.inl hp)
    | organize => exact Or.inr (Or.inr hp)
  · rintro (hp | hp | hp)
    · exact ⟨_, hp⟩
    · exact ⟨_, hp⟩
    · exact ⟨_, hp⟩

theorem mem_passes_iff {settings : Settings} {request : Request} {required : List Value}
    {config : Config} :
    config ∈ passes settings request required ↔
      ∃ p : Pass, p.Applies settings request required ∧ config = p.config settings required := by
  have hmem (b : Bool) (c : Config) : config ∈ (if b then [c] else []) ↔ b = true ∧ config = c := by
    cases b <;> simp
  rw [exists_iff, passes, List.mem_append, List.mem_append, hmem, hmem, or_assoc]
  refine or_congr ?_ (or_congr ?_ ?_)
  · cases required with
    | nil => simp [Applies]
    | cons v rest => simp [Applies, Pass.config]
  · refine and_congr_left fun _ => ?_
    simp only [Applies, Bool.and_eq_true, Bool.not_eq_true']
    tauto
  · refine and_congr_left fun _ => ?_
    simp only [Applies, Bool.and_eq_true, Bool.not_eq_true']
    tauto

/-- Calls that have the configurations of the passes follow the policy. -/
theorem policy_of_passes {settings : Settings} {request : Request} {required : List Value}
    {calls : List (Text × Config)}
    (h : ∀ config, config ∈ calls.map Prod.snd ↔ config ∈ passes settings request required) :
    (∀ call ∈ calls, ∃ p : Pass, p.Applies settings request required ∧
        p.Asks settings required call.2) ∧
      ∀ p : Pass, p.Applies settings request required →
        ∃ call ∈ calls, p.Asks settings required call.2 := by
  constructor
  · intro call hcall
    obtain ⟨p, happlies, hconfig⟩ :=
      mem_passes_iff.mp ((h call.2).mp (List.mem_map_of_mem hcall))
    exact ⟨p, happlies, hconfig ▸ p.asks_config settings required⟩
  · intro p happlies
    obtain ⟨call, hcall, hconfig⟩ :=
      List.mem_map.mp ((h _).mpr (mem_passes_iff.mpr ⟨p, happlies, rfl⟩))
    exact ⟨call, hcall, hconfig ▸ p.asks_config settings required⟩

end Pass

/-! ## The calls of a request -/

/-- The passes of a request, once the statements to ensure are known. -/
def runPasses {σ : Type} (linter : Linter σ) (snapshot : Snapshot) (text : Text) (request : Request)
    (required : List Value) : Run σ FormatResult :=
  match passes snapshot.settings request required with
  | [] => do
    Run.notify (.nothingToDo request.shownName)
    pure (.unchanged text)
  | configs => do
    let converged ← converge linter snapshot.settings.depthLimit (mask text).2 configs
    pure (resultOf text (mask text).1 required converged)

theorem formatDocument_eq {σ : Type} (linter : Linter σ) (snapshot : Snapshot) (text : Text)
    (request : Request) :
    formatDocument linter snapshot text request =
      if !snapshot.settings.enabled.truthy then Run.fail .disabled
      else effectiveImports linter snapshot.imports (mask text).2 request.context >>= fun effective =>
        runPasses linter snapshot text request
          (requiredImports snapshot.settings request effective) :=
  rfl

/-- The passes that are run are called, and nothing else is. -/
theorem runPasses_noted {σ : Type} {linter : Linter σ} {snapshot : Snapshot} {text : Text}
    {request : Request} {required : List Value} {s t : Session σ} {r : FormatResult}
    (h : (runPasses linter snapshot text request required).outcome s = (.ok r, t))
    (calls : List (Text × Config)) :
    ∃ new, (runPasses linter.noted snapshot text request required).outcome (s.noting calls) =
        (.ok r, t.noting (calls ++ new)) ∧
      (∀ config, config ∈ new.map Prod.snd ↔
        config ∈ passes snapshot.settings request required) ∧
      (passes snapshot.settings request required = [] → r = .unchanged text ∧ new = []) := by
  unfold runPasses at h ⊢
  generalize passes snapshot.settings request required = configs at h ⊢
  cases configs with
  | nil =>
    cases h
    exact ⟨[], by rw [List.append_nil]; rfl, by simp, fun _ => ⟨rfl, rfl⟩⟩
  | cons config rest =>
    obtain ⟨c, v, hconverge, hresult⟩ := Run.outcome_bind_eq_ok_iff.mp h
    cases hresult
    obtain ⟨new, -, hnoted⟩ := (converge_noted linter calls _ _ _).noted_outcome hconverge
    obtain ⟨new', rounds, hcalls, hconfigs⟩ := converge_noted_calls hnoted
    obtain rfl : new = new' := List.append_cancel_left hcalls
    refine ⟨new, Run.outcome_bind_eq_ok_iff.mpr ⟨c, _, hnoted, rfl⟩, fun config' => ?_, nofun⟩
    rw [hconfigs, List.mem_append]
    exact ⟨fun hmem => hmem.elim mem_callsOf id, Or.inr⟩

/-- A request that returns asks about undefined names first. Every call after that is one of a pass
which the settings and the place of the text allow, every such pass is called, and what it asks for
follows from the missing names and the settings. Where no pass is allowed, the text is returned as
it is, without a further call. -/
theorem formatDocument_passes {σ : Type} (linter : Linter σ) (snapshot : Snapshot) (text : Text)
    (request : Request) {s t : Session σ} {r : FormatResult}
    (h : (formatDocument linter snapshot text request).outcome s = (.ok r, t)) :
    ∃ (effective required : List Value) (u : Session σ) (analysis fixes : List (Text × Config)),
      (effectiveImports linter snapshot.imports (mask text).2 request.context).outcome s =
        (.ok effective, u) ∧
      (effectiveImports linter.noted snapshot.imports (mask text).2 request.context).outcome
        (s.noting []) = (.ok effective, u.noting analysis) ∧
      (formatDocument linter.noted snapshot text request).outcome (s.noting []) =
        (.ok r, t.noting (analysis ++ fixes)) ∧
      Ensured snapshot.settings request effective required ∧
      (∀ call ∈ analysis, call.2 = .undefinedNames) ∧
      (∀ call ∈ fixes, ∃ p : Pass, p.Applies snapshot.settings request required ∧
        p.Asks snapshot.settings required call.2) ∧
      (∀ p : Pass, p.Applies snapshot.settings request required →
        ∃ call ∈ fixes, p.Asks snapshot.settings required call.2) ∧
      ((∀ p : Pass, ¬ p.Applies snapshot.settings request required) →
        r = .unchanged text ∧ fixes = []) := by
  rw [formatDocument_eq] at h
  split at h
  · cases h
  rename_i henabled
  obtain ⟨effective, u, hanalysis, hpasses⟩ := Run.outcome_bind_eq_ok_iff.mp h
  have hdistinct : Value.Distinct effective :=
    (effectiveImports_distinct linter snapshot.imports _ _).of_outcome hanalysis
  obtain ⟨analysis, hnames, hnoted⟩ :=
    (effectiveImports_noted linter [] snapshot.imports _ _).noted_outcome hanalysis
  obtain ⟨fixes, hfixes, hconfigs, hnone⟩ := runPasses_noted hpasses analysis
  obtain ⟨hallowed, hcomplete⟩ := Pass.policy_of_passes hconfigs
  refine ⟨effective, _, u, analysis, fixes, hanalysis, hnoted, ?_,
    ensured_requiredImports snapshot.settings request hdistinct, hnames, hallowed, hcomplete, ?_⟩
  · rw [formatDocument_eq, if_neg henabled]
    exact Run.outcome_bind_eq_ok_iff.mpr ⟨effective, _, hnoted, hfixes⟩
  · intro hno
    refine hnone (List.eq_nil_iff_forall_not_mem.mpr fun config hconfig => ?_)
    obtain ⟨p, happlies, -⟩ := Pass.mem_passes_iff.mp hconfig
    exact hno p happlies

/-- Has nothing to report. -/
def quietLinter : Linter Unit := fun _ _ => pure []

/-- Settings with a statement that every file gets. -/
def futureSnapshot : Snapshot :=
  ⟨{ alwaysImport := ["from __future__ import annotations"], timeout := .int 1 }, []⟩

theorem formatDocument_passes_future :
    ∃ r t, (formatDocument quietLinter futureSnapshot ['x'] {}).outcome (.start ()) = (.ok r, t) ∧
      ∃ required analysis fixes,
        (formatDocument quietLinter.noted futureSnapshot ['x'] {}).outcome
          ((Session.start ()).noting []) = (.ok r, t.noting (analysis ++ fixes)) ∧
        ∃ call ∈ fixes, Pass.organize.Asks futureSnapshot.settings required call.2 := by
  have h : (formatDocument quietLinter futureSnapshot ['x'] {}).outcome (.start ()) =
      (.ok
        { before := ['x']
          text := ['x']
          imports := [.text "from __future__ import annotations"]
          rounds := 1 },
        ⟨(), []⟩) := by
    with_unfolding_all rfl
  obtain ⟨effective, required, u, analysis, fixes, -, -, hnoted, -, -, -, hcomplete, -⟩ :=
    formatDocument_passes quietLinter futureSnapshot ['x'] {} h
  exact ⟨_, _, h, required, analysis, fixes, hnoted, hcomplete .organize ⟨rfl, rfl, rfl⟩⟩

end TidyImports
