import TidyImports.Session

/-!
# Laws of runs

* `Run.outcome_bind` and its companions say what each step of a run leaves, an outcome and a
  session. Proofs about runs rewrite with them and do not look at how a run is made.
* `Run.Ends` is what holds of every way in which a run may end, in a result or in a failure, from
  any session on. Its rules follow the steps of a run.
* `Run.EndsFrom` is the same for one session to start from, and speaks of the session that is left.
* `Run.Gives` is what holds of a run that comes to the same from every session on.
-/

namespace TidyImports.Run

variable {σ α β : Type}

/-! ## Outcomes -/

@[simp] theorem outcome_pure (a : α) (s : Session σ) : outcome (pure a) s = (.ok a, s) := rfl

@[simp] theorem outcome_fail (f : Failure) (s : Session σ) :
    outcome (fail f : Run σ α) s = (.error f, s) := rfl

@[simp] theorem outcome_ofExcept (r : Except Failure α) (s : Session σ) :
    outcome (ofExcept r) s = (r, s) := by
  cases r <;> rfl

@[simp] theorem outcome_notify (n : Notice) (s : Session σ) :
    outcome (notify n) s = (.ok (), { s with log := s.log ++ [n] }) := rfl

@[simp] theorem outcome_step (f : σ → α × σ) (s : Session σ) :
    outcome (step f) s = (.ok (f s.world).1, { s with world := (f s.world).2 }) := rfl

theorem outcome_lift (m : StateM (Session σ) α) (s : Session σ) :
    outcome (ExceptT.lift m : Run σ α) s = (.ok (m.run s).1, (m.run s).2) := rfl

theorem outcome_bind (run : Run σ α) (next : α → Run σ β) (s : Session σ) :
    outcome (run >>= next) s =
      match outcome run s with
      | (.ok a, s) => outcome (next a) s
      | (.error f, s) => (.error f, s) := by
  unfold outcome ExceptT.run StateT.run
  simp only [bind, ExceptT.bind, ExceptT.mk, StateT.bind, ExceptT.bindCont]
  cases run s with
  | mk result t => cases result <;> rfl

theorem outcome_bind_eq_ok_iff {run : Run σ α} {next : α → Run σ β} {s t : Session σ} {b : β} :
    outcome (run >>= next) s = (.ok b, t) ↔
      ∃ a u, outcome run s = (.ok a, u) ∧ outcome (next a) u = (.ok b, t) := by
  rw [outcome_bind]
  cases outcome run s with
  | mk result u =>
    cases result with
    | ok a =>
      constructor
      · intro h
        exact ⟨a, u, rfl, h⟩
      · rintro ⟨_, _, ⟨⟩, h⟩
        exact h
    | error f => simp

theorem outcome_ofExcept_bind_eq_ok_iff {r : Except Failure α} {next : α → Run σ β}
    {s t : Session σ} {b : β} :
    outcome (ofExcept r >>= next) s = (.ok b, t) ↔
      ∃ a, r = .ok a ∧ outcome (next a) s = (.ok b, t) := by
  cases r with
  | ok a => exact ⟨fun h => ⟨a, rfl, h⟩, fun ⟨_, ha, h⟩ => Except.ok.inj ha ▸ h⟩
  | error f => exact ⟨nofun, nofun⟩

theorem outcome_tryCatch (run : Run σ α) (handle : Failure → Run σ α) (s : Session σ) :
    outcome (tryCatch run handle) s =
      match outcome run s with
      | (.ok a, s) => (.ok a, s)
      | (.error f, s) => outcome (handle f) s := by
  unfold outcome ExceptT.run StateT.run
  simp only [tryCatch, tryCatchThe, MonadExceptOf.tryCatch, ExceptT.tryCatch, ExceptT.mk, bind,
    StateT.bind]
  cases run s with
  | mk result t => cases result <;> rfl

/-! ## Ways to end -/

/-- From every session on, the run ends in a result with `ok` or in a failure with `bad`. -/
def Ends (run : Run σ α) (ok : α → Prop) (bad : Failure → Prop) : Prop :=
  ∀ s, match (outcome run s).1 with
    | .ok a => ok a
    | .error f => bad f

section

variable {ok : α → Prop} {ok' : β → Prop} {bad : Failure → Prop}

theorem Ends.of_outcome {run : Run σ α} (h : run.Ends ok bad) {s t : Session σ} {a : α}
    (ho : outcome run s = (.ok a, t)) : ok a := by
  have := h s
  rwa [ho] at this

theorem ends_pure {a : α} (h : ok a) : Ends (σ := σ) (pure a) ok bad := fun _ => h

theorem ends_fail {f : Failure} (h : bad f) : Ends (fail f : Run σ α) ok bad := fun _ => h

theorem ends_ofExcept {r : Except Failure α} (hok : ∀ a, r = .ok a → ok a)
    (hbad : ∀ f, r = .error f → bad f) : Ends (ofExcept r : Run σ α) ok bad := by
  intro s
  rw [outcome_ofExcept]
  cases r with
  | ok a => exact hok a rfl
  | error f => exact hbad f rfl

theorem ends_notify {n : Notice} : Ends (σ := σ) (notify n) (fun _ => True) bad :=
  fun _ => trivial

theorem ends_bind {run : Run σ α} {next : α → Run σ β} (h : run.Ends ok bad)
    (k : ∀ a, ok a → (next a).Ends ok' bad) : (run >>= next).Ends ok' bad := by
  intro s
  have hs := h s
  rw [outcome_bind]
  cases ho : outcome run s with
  | mk result t =>
    rw [ho] at hs
    cases result with
    | ok a => exact k a hs t
    | error f => exact hs

/-- Nothing is known of a run that comes from outside. -/
theorem ends_any (run : Run σ α) : run.Ends (fun _ => True) (fun _ => True) := by
  intro s
  cases (outcome run s).1 with
  | ok a => trivial
  | error f => trivial

end

/-! ## Ways to end from one session -/

/-- From the session `s` on, the run ends in a result and a session with `ok` or in a failure and a
session with `bad`. -/
def EndsFrom (run : Run σ α) (s : Session σ) (ok : α → Session σ → Prop)
    (bad : Failure → Session σ → Prop) : Prop :=
  match outcome run s with
  | (.ok a, t) => ok a t
  | (.error f, t) => bad f t

section

variable {s t : Session σ} {ok ok' : α → Session σ → Prop} {bad bad' : Failure → Session σ → Prop}

theorem EndsFrom.of_ok {run : Run σ α} (h : run.EndsFrom s ok bad) {a : α}
    (ho : outcome run s = (.ok a, t)) : ok a t := by
  rwa [EndsFrom, ho] at h

theorem EndsFrom.of_error {run : Run σ α} (h : run.EndsFrom s ok bad) {f : Failure}
    (ho : outcome run s = (.error f, t)) : bad f t := by
  rwa [EndsFrom, ho] at h

theorem EndsFrom.mono {run : Run σ α} (h : run.EndsFrom s ok bad)
    (hok : ∀ a t, ok a t → ok' a t) (hbad : ∀ f t, bad f t → bad' f t) :
    run.EndsFrom s ok' bad' := by
  unfold EndsFrom at h ⊢
  split at h
  · exact hok _ _ h
  · exact hbad _ _ h

theorem Ends.endsFrom {run : Run σ α} {ok : α → Prop} {bad : Failure → Prop} (h : run.Ends ok bad)
    (s : Session σ) : run.EndsFrom s (fun a _ => ok a) fun f _ => bad f := by
  have hs := h s
  unfold EndsFrom
  cases ho : outcome run s with
  | mk result t =>
    rw [ho] at hs
    cases result with
    | ok a => exact hs
    | error f => exact hs

theorem endsFrom_pure {a : α} (h : ok a s) : (pure a : Run σ α).EndsFrom s ok bad := h

theorem endsFrom_fail {f : Failure} (h : bad f s) : (fail f : Run σ α).EndsFrom s ok bad := h

theorem endsFrom_ofExcept (r : Except Failure α) (s : Session σ) :
    (ofExcept r : Run σ α).EndsFrom s (fun a t => r = .ok a ∧ t = s)
      fun f t => r = .error f ∧ t = s := by
  rw [EndsFrom, outcome_ofExcept]
  cases r with
  | ok a => exact ⟨rfl, rfl⟩
  | error f => exact ⟨rfl, rfl⟩

theorem endsFrom_notify (n : Notice) (s : Session σ) :
    (notify n : Run σ Unit).EndsFrom s (fun _ t => t = { s with log := s.log ++ [n] })
      fun _ _ => False := rfl

theorem endsFrom_bind {run : Run σ α} {next : α → Run σ β} {ok' : β → Session σ → Prop}
    (h : run.EndsFrom s ok bad) (hbad : ∀ f t, bad f t → bad' f t)
    (k : ∀ a t, ok a t → (next a).EndsFrom t ok' bad') : (run >>= next).EndsFrom s ok' bad' := by
  unfold EndsFrom at h ⊢
  rw [outcome_bind]
  cases ho : outcome run s with
  | mk result t =>
    rw [ho] at h
    cases result with
    | ok a => exact k a t h
    | error f => exact hbad f t h

end

/-! ## Runs that always come to the same -/

/-- From every session on, the run comes to `r`. -/
def Gives (run : Run σ α) (r : Except Failure α) : Prop := ∀ s, (outcome run s).1 = r

theorem gives_pure (a : α) : Gives (σ := σ) (pure a) (.ok a) := fun _ => rfl

theorem gives_fail (f : Failure) : (fail f : Run σ α).Gives (.error f) := fun _ => rfl

theorem gives_ofExcept (r : Except Failure α) : (ofExcept r : Run σ α).Gives r := by
  intro s
  rw [outcome_ofExcept]

theorem gives_notify (n : Notice) : (notify n : Run σ Unit).Gives (.ok ()) := fun _ => rfl

theorem gives_bind {run : Run σ α} {next : α → Run σ β} {r : Except Failure α}
    {after : α → Except Failure β} (h : run.Gives r)
    (k : ∀ a, r = .ok a → (next a).Gives (after a)) : (run >>= next).Gives (r >>= after) := by
  intro s
  have hs := h s
  rw [outcome_bind]
  cases ho : outcome run s with
  | mk result t =>
    rw [ho] at hs
    subst hs
    cases result with
    | ok a => exact k a rfl t
    | error f => rfl

theorem gives_bind_ok {run : Run σ α} {next : α → Run σ β} {a : α} {r : Except Failure β}
    (h : run.Gives (.ok a)) (k : (next a).Gives r) : (run >>= next).Gives r := by
  change (run >>= next).Gives (Except.ok a >>= fun _ => r)
  refine gives_bind h fun b hb => ?_
  cases hb
  exact k

end TidyImports.Run
