import TidyImports.Converge
import TidyImports.Proofs.Data.Except
import TidyImports.Proofs.Session

/-!
# The trail of a run

Whatever the linter does, a run is a chain of calls to it. `Trail` lists them: on which text each
call was made, and what became of the answer. An answer without edits leaves no batch, any other
leaves the normal batch of its edits, which was applied.

* `Trail.reached` — the batches of a trail lead from the first text to the last (`Reached`).
* `pass_trail`, `round_trail`, `settle_trail` — each part of a run that returns leaves a trail, and
  so do the calls before one that fails (`Broken`).
* `converge_trail` — a run that returns, that a failure of the linter ends or that passes the limit
  reports the text and the batches of its trail.
-/

namespace TidyImports

/-- The batches lead from the text `start` to `text`, and each of them has an edit. -/
structure Reached (start text : Text) (batches : List Batch) : Prop where
  applied : applyBatches start batches = .ok text
  nonempty : ∀ batch ∈ batches, batch ≠ []

/-! ## Trails -/

section

variable {σ : Type}

/-- Asked about a text in the session `s`, the linter proposes these edits and leaves the session
`t`. -/
def Linter.Proposes (linter : Linter σ) (text : Text) (config : Config) (s : Session σ)
    (edits : List Edit) (t : Session σ) : Prop :=
  ∃ diagnostics, (linter text config).outcome s = (.ok diagnostics, t) ∧
    Proposal.batch? (Diagnostic.proposals diagnostics) = some edits

/-- From a text and a session, calls to the linter with these configurations, each on the text that
the one before it left, with the batches that were applied, lead to a text and a session. -/
inductive Trail (linter : Linter σ) :
    List Config → Text → Session σ → List Batch → Text → Session σ → Prop
  | nil (text : Text) (s : Session σ) : Trail linter [] text s [] text s
  | idle {text final : Text} {s t u : Session σ} {config : Config} {configs : List Config}
      {edits : List Edit} {batches : List Batch} (proposed : linter.Proposes text config s edits t)
      (none : normalize edits = []) (rest : Trail linter configs text t batches final u) :
      Trail linter (config :: configs) text s batches final u
  | fixed {text next final : Text} {s t u : Session σ} {config : Config} {configs : List Config}
      {edits : List Edit} {batch : Batch} {batches : List Batch} {label : String} (round : Nat)
      (proposed : linter.Proposes text config s edits t) (normal : normalize edits = batch)
      (some : batch ≠ []) (labelled : config.label = .ok label)
      (applied : applyAll text batch = .ok next)
      (rest : Trail linter configs next
        { t with log := t.log ++ [.applying round label (batch.map .ofEdit)] } batches final u) :
      Trail linter (config :: configs) text s (batch :: batches) final u

variable {linter : Linter σ}

theorem Trail.append {configs configs' : List Config} {text mid final : Text}
    {s t u : Session σ} {batches batches' : List Batch}
    (h : Trail linter configs text s batches mid t)
    (h' : Trail linter configs' mid t batches' final u) :
    Trail linter (configs ++ configs') text s (batches ++ batches') final u := by
  induction h with
  | nil => exact h'
  | idle proposed none _ ih => exact .idle proposed none (ih h')
  | fixed round proposed normal some labelled applied _ ih =>
    exact .fixed round proposed normal some labelled applied (ih h')

theorem Trail.reached {configs : List Config} {text final : Text} {s t : Session σ}
    {batches : List Batch} (h : Trail linter configs text s batches final t) :
    Reached text final batches := by
  induction h with
  | nil => exact ⟨rfl, by simp⟩
  | idle _ _ _ ih => exact ih
  | fixed _ _ _ some _ applied _ ih =>
    refine ⟨?_, List.forall_mem_cons.mpr ⟨some, ih.nonempty⟩⟩
    rw [applyBatches, applied]
    exact ih.applied

/-! ## Progress along a trail -/

/-- The trail of some calls leads from one progress to another. -/
def Advanced (linter : Linter σ) (configs : List Config) (p : Progress) (s : Session σ)
    (q : Progress) (t : Session σ) : Prop :=
  ∃ batches, q.batches = p.batches ++ batches ∧ Trail linter configs p.text s batches q.text t

theorem advanced_nil (p : Progress) (s : Session σ) : Advanced linter [] p s p s :=
  ⟨[], (List.append_nil _).symm, .nil _ _⟩

theorem Advanced.trans {configs configs' : List Config} {p q r : Progress} {s t u : Session σ}
    (h : Advanced linter configs p s q t) (h' : Advanced linter configs' q t r u) :
    Advanced linter (configs ++ configs') p s r u := by
  obtain ⟨batches, hq, htrail⟩ := h
  obtain ⟨batches', hr, htrail'⟩ := h'
  exact ⟨batches ++ batches', by rw [hr, hq, List.append_assoc], htrail.append htrail'⟩

theorem Advanced.trail {configs : List Config} {text : Text} {q : Progress} {s t : Session σ}
    (h : Advanced linter configs ⟨text, []⟩ s q t) :
    Trail linter configs text s q.batches q.text t := by
  obtain ⟨batches, hq, htrail⟩ := h
  rw [hq]
  exact htrail

end

/-! ## Failures -/

/-- A failure that comes with the text and the batches of a fixing run. -/
def Failure.bearsText : Failure → Bool
  | .linter .. | .depthLimit .. => true
  | _ => false

/-- A failure of the linter as a run hands it on. -/
def Failure.within (p : Progress) : Failure → Failure
  | .linter fault _ _ => .linter fault p.text p.batches
  | failure => failure

section

variable {σ : Type} (linter : Linter σ)

/-- One of the calls with these configurations, on the text of `q`, ended in the failure and left
the session `t`; the calls before it lead to `q`. -/
def Broken (configs : List Config) (p : Progress) (s : Session σ) (q : Progress) (f : Failure)
    (t : Session σ) : Prop :=
  ∃ before config after u, configs = before ++ config :: after ∧ Advanced linter before p s q u ∧
    (linter q.text config).outcome u = (.error f, t)

variable {linter}

theorem Broken.append {configs : List Config} {p q : Progress} {s t : Session σ} {f : Failure}
    (h : Broken linter configs p s q f t) (configs' : List Config) :
    Broken linter (configs ++ configs') p s q f t := by
  obtain ⟨before, config, after, u, rfl, hrest⟩ := h
  exact ⟨before, config, after ++ configs', u, by simp, hrest⟩

theorem Advanced.broken {configs configs' : List Config} {p q r : Progress} {s t u : Session σ}
    {f : Failure} (h : Advanced linter configs p s q t) (h' : Broken linter configs' q t r f u) :
    Broken linter (configs ++ configs') p s r f u := by
  obtain ⟨before, config, after, v, rfl, hr, hf⟩ := h'
  exact ⟨configs ++ before, config, after, v, by simp, h.trans hr, hf⟩

end

theorem Failure.of_within_eq_linter {f : Failure} {q : Progress} {fault : LinterFault} {text : Text}
    {batches : List Batch} (h : .linter fault text batches = f.within q) :
    q = ⟨text, batches⟩ ∧ ∃ told toldBatches, f = .linter fault told toldBatches := by
  cases f with
  | linter fault' told toldBatches =>
    cases h
    exact ⟨rfl, told, toldBatches, rfl⟩
  | _ => cases h

theorem Failure.of_within_eq_depthLimit {f : Failure} {q : Progress} {limit : Int} {text : Text}
    {batches : List Batch} (h : .depthLimit limit text batches = f.within q) :
    f = .depthLimit limit text batches := by
  cases f with
  | depthLimit => exact h.symm
  | _ => cases h

/-! ## Failures that are not the linter's -/

theorem bearsText_of_label {config : Config} {f : Failure} (h : config.label = .error f) :
    f.bearsText = false := by
  unfold Config.label at h
  split at h
  · cases h
  · split at h
    · cases h
    · cases h
      rfl

theorem bearsText_of_patch {α : Type} {r : Except PatchFault α} {f : Failure}
    (h : r.mapError Failure.patch = .error f) : f.bearsText = false := by
  cases r with
  | ok a => cases h
  | error fault =>
    cases h
    rfl

namespace Proposal

theorem bearsText_of_join {p q : Proposal} {f : Failure} (h : p.join q = .error f) :
    f.bearsText = false := by
  unfold join at h
  split at h <;> cases h <;> rfl

theorem bearsText_of_merge {last : Proposal} {rest : List Proposal} {f : Failure}
    (h : merge last rest = .error f) : f.bearsText = false := by
  fun_induction merge last rest with
  | case1 => cases h
  | case2 _ _ _ _ ih => exact ih h
  | case3 last p rest _ _ ih =>
    rcases Except.bind_eq_error_iff.mp h with hjoin | ⟨joined, -, hrest⟩
    · exact bearsText_of_join hjoin
    · exact ih joined hrest
  | case4 last p rest _ _ ih =>
    rcases Except.bind_eq_error_iff.mp h with hrest | ⟨merged, -, hpure⟩
    · exact ih hrest
    · cases hpure

theorem bearsText_of_normalize {proposals : List Proposal} {f : Failure}
    (h : normalize proposals = .error f) : f.bearsText = false := by
  unfold normalize at h
  split at h
  · cases h
    rfl
  · cases h
  · exact bearsText_of_merge h

theorem bearsText_of_tryOn {text : Text} {p : Proposal} {f : Failure}
    (h : p.tryOn text = .error f) : f.bearsText = false := by
  rcases Except.bind_eq_error_iff.mp h with happly | ⟨next, -, hkind⟩
  · exact bearsText_of_patch happly
  · split at hkind
    · cases hkind
    · cases hkind
      rfl

theorem bearsText_of_tryAll {text : Text} {proposals : List Proposal} {f : Failure}
    (h : tryAll text proposals = .error f) : f.bearsText = false := by
  induction proposals generalizing f with
  | nil => cases h
  | cons p rest ih =>
    rcases Except.bind_eq_error_iff.mp h with hrest | ⟨next, -, hfirst⟩
    · exact ih hrest
    · exact bearsText_of_tryOn hfirst

end Proposal

/-! ## Passes -/

section

variable {σ : Type} {linter : Linter σ}

/-- An answer without edits ends the pass where it began. -/
theorem pass_idle {p : Progress} {config : Config} {s t : Session σ} {edits : List Edit} (n : Nat)
    (hp : linter.Proposes p.text config s edits t) (hn : normalize edits = []) :
    (pass linter n p config).outcome s = (.ok p, t) := by
  obtain ⟨diagnostics, hcall, hedits⟩ := hp
  rw [pass, Run.outcome_bind, ask, Run.outcome_tryCatch, hcall]
  dsimp only
  rw [hedits]
  dsimp only
  rw [hn]
  rfl

theorem pass_fixed {p : Progress} {config : Config} {s t : Session σ} {edits : List Edit}
    {batch : Batch} {label : String} {next : Text} (n : Nat)
    (hp : linter.Proposes p.text config s edits t) (hn : normalize edits = batch)
    (hne : batch ≠ []) (hlabel : config.label = .ok label)
    (happlied : applyAll p.text batch = .ok next) :
    (pass linter n p config).outcome s = (.ok ⟨next, p.batches ++ [batch]⟩,
      { t with log := t.log ++ [.applying n label (batch.map .ofEdit)] }) := by
  obtain ⟨diagnostics, hcall, hedits⟩ := hp
  obtain ⟨e, rest, rfl⟩ := List.exists_cons_of_ne_nil hne
  rw [pass, Run.outcome_bind, ask, Run.outcome_tryCatch, hcall]
  dsimp only
  rw [hedits]
  dsimp only
  have hmap : (applyAll p.text (e :: rest)).mapError Failure.patch = .ok next := by
    rw [happlied]
    rfl
  rw [hn]
  simp only [Run.outcome_bind, Run.outcome_ofExcept, Run.outcome_notify, Run.outcome_pure, hlabel,
    hmap]

end

/-! ## The trail of a run -/

section

variable {σ : Type} (linter : Linter σ)

/-- Proposals that are no edits end the run, and not with a failure that bears a text. -/
theorem refuse_fails (n : Nat) (p : Progress) (config : Config) (proposals : List Proposal) :
    (refuse n p config proposals : Run σ Progress).Ends (fun _ => False)
      fun f => f.bearsText = false := by
  unfold refuse
  apply Run.ends_bind
    (Run.ends_ofExcept (fun _ _ => trivial) fun _ => Proposal.bearsText_of_normalize)
  intro batch _
  apply Run.ends_bind (Run.ends_ofExcept (fun _ _ => trivial) fun _ => bearsText_of_label)
  intro label _
  apply Run.ends_bind Run.ends_notify
  intro _ _
  apply Run.ends_bind (Run.ends_ofExcept (fun _ _ => trivial) fun _ => Proposal.bearsText_of_tryAll)
  intro _ _
  exact Run.ends_fail rfl

theorem ask_endsFrom (p : Progress) (config : Config) (s : Session σ) :
    (ask linter p config).EndsFrom s
      (fun diagnostics t => (linter p.text config).outcome s = (.ok diagnostics, t))
      fun f t => ∃ failure, (linter p.text config).outcome s = (.error failure, t) ∧
        f = failure.within p := by
  rw [Run.EndsFrom, ask, Run.outcome_tryCatch]
  cases h : (linter p.text config).outcome s with
  | mk result t =>
    cases result with
    | ok diagnostics => rfl
    | error failure => cases failure <;> exact ⟨_, rfl, rfl⟩

theorem pass_trail (n : Nat) (p : Progress) (config : Config) (s : Session σ) :
    (pass linter n p config).EndsFrom s (fun q t => Advanced linter [config] p s q t)
      fun f t => f.bearsText = true →
        ∃ q failure, f = failure.within q ∧ Broken linter [config] p s q failure t := by
  have hplain : ∀ {f : Failure} {t : Session σ}, f.bearsText = false → f.bearsText = true →
      ∃ q failure, f = failure.within q ∧ Broken linter [config] p s q failure t := by
    intro f t h h'
    rw [h] at h'
    cases h'
  unfold pass
  refine Run.endsFrom_bind (ask_endsFrom linter p config s) ?_ ?_
  · rintro f t ⟨failure, hfailed, rfl⟩ _
    exact ⟨p, failure, rfl, [], config, [], s, rfl, advanced_nil p s, hfailed⟩
  intro diagnostics t hasked
  dsimp only
  cases hb : Proposal.batch? (Diagnostic.proposals diagnostics) with
  | none =>
    exact ((refuse_fails n p config _).endsFrom t).mono (fun _ _ => False.elim) fun _ _ => hplain
  | some edits =>
    have hproposed : linter.Proposes p.text config s edits t := ⟨diagnostics, hasked, hb⟩
    dsimp only
    cases hn : normalize edits with
    | nil =>
      exact Run.endsFrom_pure ⟨[], (List.append_nil _).symm, .idle hproposed hn (.nil _ _)⟩
    | cons e rest =>
      refine Run.endsFrom_bind (Run.endsFrom_ofExcept _ t) ?_ ?_
      · rintro f _ ⟨hf, -⟩
        exact hplain (bearsText_of_label hf)
      rintro label _ ⟨hlabel, rfl⟩
      refine Run.endsFrom_bind (Run.endsFrom_notify _ _) (fun _ _ => False.elim) ?_
      rintro _ _ rfl
      refine Run.endsFrom_bind (Run.endsFrom_ofExcept _ _) ?_ ?_
      · rintro f _ ⟨hf, -⟩
        exact hplain (bearsText_of_patch hf)
      rintro text _ ⟨htext, rfl⟩
      have happlied := Except.mapError_eq_ok_iff.mp htext
      exact Run.endsFrom_pure
        ⟨[e :: rest], rfl, .fixed n hproposed hn (by simp) hlabel happlied (.nil _ _)⟩

theorem round_trail (n : Nat) (configs : List Config) (p : Progress) (s : Session σ) :
    (round linter n p configs).EndsFrom s (fun q t => Advanced linter configs p s q t)
      fun f t => f.bearsText = true →
        ∃ q failure, f = failure.within q ∧ Broken linter configs p s q failure t := by
  induction configs generalizing p s with
  | nil => exact Run.endsFrom_pure (advanced_nil p s)
  | cons config rest ih =>
    rw [round]
    refine Run.endsFrom_bind (pass_trail linter n p config s) ?_ ?_
    · intro f t hf htext
      obtain ⟨q, failure, rfl, hbroken⟩ := hf htext
      exact ⟨q, failure, rfl, hbroken.append rest⟩
    · intro q t hq
      refine (ih q t).mono (fun _ _ => hq.trans) ?_
      intro f u hf htext
      obtain ⟨r, failure, rfl, hbroken⟩ := hf htext
      exact ⟨r, failure, rfl, hq.broken hbroken⟩

/-- The calls of some rounds. -/
def callsOf (configs : List Config) (rounds : Nat) : List Config :=
  (List.replicate rounds configs).flatten

theorem callsOf_succ (configs : List Config) (rounds : Nat) :
    callsOf configs (rounds + 1) = configs ++ callsOf configs rounds := by
  rw [callsOf, List.replicate_succ, List.flatten_cons, callsOf]

theorem callsOf_succ' (configs : List Config) (rounds : Nat) :
    callsOf configs (rounds + 1) = callsOf configs rounds ++ configs := by
  rw [callsOf, List.replicate_succ', List.flatten_append, List.flatten_singleton, callsOf]

theorem mem_callsOf {configs : List Config} {rounds : Nat} {config : Config}
    (h : config ∈ callsOf configs rounds) : config ∈ configs := by
  obtain ⟨calls, hcalls, hconfig⟩ := List.mem_flatten.mp h
  rwa [List.eq_of_mem_replicate hcalls] at hconfig

/-- The last round of a run that returns is one that leaves the text as it was. -/
theorem settle_trail (limit : Nat) (configs : List Config) (left n : Nat) (p : Progress)
    (s : Session σ) :
    (settle linter limit configs left n p).EndsFrom s
      (fun c t => ∃ k q u, c.rounds = n + k + 1 ∧ q.text = c.text ∧
        Advanced linter (callsOf configs k) p s q u ∧
        Advanced linter configs q u ⟨c.text, c.batches⟩ t)
      fun f t => f.bearsText = true → ∃ q,
        (∃ failure, f = failure.within q ∧
          Broken linter (callsOf configs left) p s q failure t) ∨
        f = .depthLimit limit q.text q.batches ∧
          Advanced linter (callsOf configs left) p s q t := by
  induction left generalizing n p s with
  | zero => exact Run.endsFrom_fail fun _ => ⟨p, Or.inr ⟨rfl, advanced_nil p s⟩⟩
  | succ left ih =>
    rw [settle, callsOf_succ]
    refine Run.endsFrom_bind (round_trail linter n configs p s) ?_ ?_
    · intro f t hf htext
      obtain ⟨q, failure, rfl, hbroken⟩ := hf htext
      exact ⟨q, Or.inl ⟨failure, rfl, hbroken.append _⟩⟩
    · intro q t hq
      split
      · rename_i hsame
        exact Run.endsFrom_pure ⟨0, p, s, rfl, hsame.symm, advanced_nil p s, hq⟩
      · refine (ih (n + 1) q t).mono ?_ ?_
        · rintro c u ⟨k, r, v, hrounds, htext, hr, hlast⟩
          refine ⟨k + 1, r, v, by omega, htext, ?_, hlast⟩
          rw [callsOf_succ]
          exact hq.trans hr
        · intro f u hf htext
          obtain ⟨r, ⟨failure, rfl, hbroken⟩ | ⟨rfl, hr⟩⟩ := hf htext
          · exact ⟨r, Or.inl ⟨failure, rfl, hq.broken hbroken⟩⟩
          · exact ⟨r, Or.inr ⟨rfl, hq.trans hr⟩⟩

theorem converge_endsFrom (limit : Nat) (text : Text) (configs : List Config) (s : Session σ) :
    (converge linter limit text configs).EndsFrom s
      (fun c t => Advanced linter (callsOf configs c.rounds) ⟨text, []⟩ s ⟨c.text, c.batches⟩ t)
      fun f t => f.bearsText = true → ∃ q,
        (∃ failure, f = failure.within q ∧
          Broken linter (callsOf configs (limit + 1)) ⟨text, []⟩ s q failure t) ∨
        f = .depthLimit limit q.text q.batches ∧
          Advanced linter (callsOf configs (limit + 1)) ⟨text, []⟩ s q t := by
  refine (settle_trail linter limit configs (limit + 1) 0 ⟨text, []⟩ s).mono ?_ fun _ _ => id
  rintro c t ⟨k, q, u, hrounds, -, hq, hlast⟩
  rw [hrounds, Nat.zero_add, callsOf_succ']
  exact hq.trans hlast

/-- A run that returns has reached its text by its batches. -/
theorem converge_ends (limit : Nat) (text : Text) (configs : List Config) :
    (converge linter limit text configs).Ends (fun c => Reached text c.text c.batches)
      (fun _ => True) := by
  intro s
  have h := converge_endsFrom linter limit text configs s
  cases ho : (converge linter limit text configs).outcome s with
  | mk result t =>
    cases result with
    | ok c => exact (h.of_ok ho).trail.reached
    | error f => trivial

/-- **What a run reports.** Let the linter do what it may. When a run returns, when a failure of the
linter ends it and when it passes the limit, its batches lead from the first text to the text it
reports, and they are those of its trail, which has every call up to that point: all calls of its
rounds, the calls before the one that failed, or all calls of `limit + 1` rounds. A failure of the
limit that is not the run's own was one of the linter. -/
theorem converge_trail (limit : Nat) (text : Text) (configs : List Config) (s : Session σ) :
    match (converge linter limit text configs).outcome s with
    | (.ok c, t) =>
      Reached text c.text c.batches ∧
        Advanced linter (callsOf configs c.rounds) ⟨text, []⟩ s ⟨c.text, c.batches⟩ t
    | (.error (.linter fault reached batches), t) =>
      Reached text reached batches ∧ ∃ told toldBatches,
        Broken linter (callsOf configs (limit + 1)) ⟨text, []⟩ s ⟨reached, batches⟩
          (.linter fault told toldBatches) t
    | (.error (.depthLimit l reached batches), t) =>
      (l = limit ∧ Reached text reached batches ∧
        Advanced linter (callsOf configs (limit + 1)) ⟨text, []⟩ s ⟨reached, batches⟩ t) ∨
      ∃ q, Broken linter (callsOf configs (limit + 1)) ⟨text, []⟩ s q
        (.depthLimit l reached batches) t
    | _ => True := by
  have h := converge_endsFrom linter limit text configs s
  cases ho : (converge linter limit text configs).outcome s with
  | mk result t =>
    cases result with
    | ok c => exact ⟨(h.of_ok ho).trail.reached, h.of_ok ho⟩
    | error f =>
      cases f with
      | linter fault reached batches =>
        obtain ⟨q, ⟨failure, hf, hbroken⟩ | ⟨hf, -⟩⟩ := h.of_error ho rfl
        · obtain ⟨rfl, told, toldBatches, rfl⟩ := Failure.of_within_eq_linter hf
          refine ⟨?_, told, toldBatches, hbroken⟩
          obtain ⟨before, config, after, u, -, hadv, -⟩ := hbroken
          exact hadv.trail.reached
        · cases hf
      | depthLimit l reached batches =>
        obtain ⟨q, ⟨failure, hf, hbroken⟩ | ⟨hf, hadv⟩⟩ := h.of_error ho rfl
        · rw [Failure.of_within_eq_depthLimit hf] at hbroken
          exact Or.inr ⟨q, hbroken⟩
        · cases hf
          exact Or.inl ⟨rfl, hadv.trail.reached, hadv⟩
      | _ => trivial

end

/-- Writes a `y` over an `x`, and fails on any other text. -/
def onceLinter : Linter Unit := fun text _ =>
  if text = ['x'] then pure [⟨.null, .null, some [.ofEdit ⟨documentRange text, ['y']⟩], none⟩]
  else Run.fail (.linter (.reported "no x") [] [])

/-- The second call fails, and the batch of the first is reported with the text that it left. -/
theorem converge_trail_once :
    ∃ batches t, (converge onceLinter 5 ['x'] [{ name := "first" }, { name := "second" }]).outcome
        (.start ()) = (.error (.linter (.reported "no x") ['y'] batches), t) ∧
      batches = [[⟨documentRange ['x'], ['y']⟩]] ∧ Reached ['x'] ['y'] batches := by
  have h := converge_trail onceLinter 5 ['x'] [{ name := "first" }, { name := "second" }]
    (.start ())
  have ho : (converge onceLinter 5 ['x'] [{ name := "first" }, { name := "second" }]).outcome
      (.start ()) =
      (.error (.linter (.reported "no x") ['y'] [[⟨documentRange ['x'], ['y']⟩]]),
        ⟨(), [.applying 0 "first" [.ofEdit ⟨documentRange ['x'], ['y']⟩]]⟩) := by
    with_unfolding_all rfl
  rw [ho] at h
  exact ⟨_, _, ho, rfl, h.1⟩

end TidyImports
