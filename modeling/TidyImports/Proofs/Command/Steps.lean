import TidyImports.Command.Format
import TidyImports.Proofs.Session

/-!
# Laws of commands

* `Command.EndsFrom` is what holds of the results of a command and of the worlds that it leaves, be
  it by returning or by an exit status. Nothing is said of a crash.
* `Command.Quiet` commands neither exit nor touch the files, the linter and standard input, whatever
  they print.
-/

namespace TidyImports.Command

variable {ρ α β : Type}

/-! ## Outcomes -/

theorem outcome_ofExcept (r : Except Failure α) (s : Session (World ρ)) :
    outcome (ofExcept r : Command ρ α) s = (r.mapError .crash, s) := by
  cases r <;> rfl

theorem outcome_bind (command : Command ρ α) (next : α → Command ρ β) (s : Session (World ρ)) :
    outcome (command >>= next) s =
      match outcome command s with
      | (.ok a, s) => outcome (next a) s
      | (.error e, s) => (.error e, s) := by
  unfold outcome ExceptT.run StateT.run
  simp only [bind, ExceptT.bind, ExceptT.mk, StateT.bind, ExceptT.bindCont]
  cases command s with
  | mk result t => cases result <;> rfl

theorem outcome_world_bind (next : World ρ → Command ρ α) (s : Session (World ρ)) :
    outcome (world >>= next) s = outcome (next s.world) s := rfl

theorem outcome_ofExcept_bind {r : Except Failure α} {a : α} (h : r = .ok a)
    (next : α → Command ρ β) (s : Session (World ρ)) :
    outcome (ofExcept r >>= next) s = outcome (next a) s := by
  rw [outcome_bind, outcome_ofExcept, h]
  rfl

theorem outcome_bind_ok {command : Command ρ α} {a : α} {s t : Session (World ρ)}
    (h : outcome command s = (.ok a, t)) (next : α → Command ρ β) :
    outcome (command >>= next) s = outcome (next a) t := by
  rw [outcome_bind, h]

theorem outcome_attempt_bind {run : Run (World ρ) α} {r : Except Failure α}
    {s t : Session (World ρ)} (h : run.outcome s = (r, t))
    (next : Except Failure α → Command ρ β) :
    outcome (attempt run >>= next) s = outcome (next r) t := by
  have hattempt : outcome (attempt run) s = (.ok (run.outcome s).1, (run.outcome s).2) := rfl
  rw [outcome_bind_ok hattempt, h]

theorem ok_of_bind {command : Command ρ α} {next : α → Command ρ β} {s u : Session (World ρ)}
    {b : β}
    (h : outcome (command >>= next) s = (.ok b, u)) :
    ∃ a t, outcome command s = (.ok a, t) ∧ outcome (next a) t = (.ok b, u) := by
  rw [outcome_bind] at h
  cases ho : outcome command s with
  | mk result t =>
    rw [ho] at h
    cases result with
    | ok a => exact ⟨a, t, rfl, h⟩
    | error e => cases h

/-! ## Ways to end -/

/-- From the session `s` on, the command returns with `ok` or exits with `left`, if it does not
crash. -/
def EndsFrom (command : Command ρ α) (s : Session (World ρ))
    (ok : α → Session (World ρ) → Prop) (left : Session (World ρ) → Prop) : Prop :=
  match outcome command s with
  | (.ok a, t) => ok a t
  | (.error (.exit _), t) => left t
  | (.error (.crash _), _) => True

section

variable {s : Session (World ρ)} {ok ok' : α → Session (World ρ) → Prop}
  {left left' : Session (World ρ) → Prop}

theorem EndsFrom.mono {command : Command ρ α} (h : command.EndsFrom s ok left)
    (hok : ∀ a t, ok a t → ok' a t) (hleft : ∀ t, left t → left' t) :
    command.EndsFrom s ok' left' := by
  unfold EndsFrom at h ⊢
  split at h
  · exact hok _ _ h
  · exact hleft _ h
  · trivial

theorem EndsFrom.of_ok {command : Command ρ α} (h : command.EndsFrom s ok left) {a : α}
    {t : Session (World ρ)} (ho : outcome command s = (.ok a, t)) : ok a t := by
  rwa [EndsFrom, ho] at h

/-- What returns also returns what the command comes to. -/
theorem EndsFrom.and_outcome {command : Command ρ α} (h : command.EndsFrom s ok left) :
    command.EndsFrom s (fun a t => outcome command s = (.ok a, t) ∧ ok a t) left := by
  unfold EndsFrom at h ⊢
  cases ho : outcome command s with
  | mk result t =>
    rw [ho] at h
    cases result with
    | ok a => exact ⟨rfl, h⟩
    | error e =>
      cases e with
      | exit status => exact h
      | crash f => trivial

/-- What exits after a step that does not exit itself. -/
theorem EndsFrom.exit_of_bind {command : Command ρ β} {next : β → Command ρ α}
    {ok : β → Session (World ρ) → Prop} (h : command.EndsFrom s ok fun _ => False) {status : Nat}
    {u : Session (World ρ)} (hexit : outcome (command >>= next) s = (.error (.exit status), u)) :
    ∃ b t, outcome command s = (.ok b, t) ∧ ok b t ∧
      outcome (next b) t = (.error (.exit status), u) := by
  unfold EndsFrom at h
  rw [outcome_bind] at hexit
  cases ho : outcome command s with
  | mk result t =>
    rw [ho] at h hexit
    cases result with
    | ok b => exact ⟨b, t, rfl, h, hexit⟩
    | error e =>
      cases e with
      | exit n => exact h.elim
      | crash f => cases hexit

theorem endsFrom_pure {a : α} (h : ok a s) : (pure a : Command ρ α).EndsFrom s ok left := h

theorem endsFrom_stop {status : Nat} (h : left s) :
    (stop status : Command ρ α).EndsFrom s ok left := h

theorem endsFrom_stop_bind {status : Nat} {next : β → Command ρ α} (h : left s) :
    (stop status >>= next).EndsFrom s ok left := h

theorem endsFrom_crash (f : Failure) : (throw (.crash f) : Command ρ α).EndsFrom s ok left :=
  trivial

theorem endsFrom_ofExcept (r : Except Failure α) (s : Session (World ρ)) :
    (ofExcept r : Command ρ α).EndsFrom s (fun a t => r = .ok a ∧ t = s) (fun _ => False) := by
  unfold EndsFrom
  rw [outcome_ofExcept]
  cases r with
  | ok a => exact ⟨rfl, rfl⟩
  | error f => trivial

theorem endsFrom_attempt (run : Run (World ρ) α) (s : Session (World ρ)) :
    (attempt run).EndsFrom s (fun r t => run.outcome s = (r, t)) (fun _ => False) := rfl

theorem endsFrom_bind {command : Command ρ α} {next : α → Command ρ β}
    {ok' : β → Session (World ρ) → Prop} (h : command.EndsFrom s ok left)
    (hleft : ∀ t, left t → left' t) (k : ∀ a t, ok a t → (next a).EndsFrom t ok' left') :
    (command >>= next).EndsFrom s ok' left' := by
  unfold EndsFrom at h ⊢
  rw [outcome_bind]
  cases ho : outcome command s with
  | mk result t =>
    rw [ho] at h
    cases result with
    | ok a => exact k a t h
    | error e =>
      cases e with
      | exit status => exact hleft t h
      | crash f => trivial

/-- The rule for a step that is known to return. -/
theorem endsFrom_bind_ok {command : Command ρ β} {next : β → Command ρ α} {b : β}
    {t : Session (World ρ)} (h : outcome command s = (.ok b, t)) (k : (next b).EndsFrom t ok left) :
    (command >>= next).EndsFrom s ok left := by
  unfold EndsFrom at k ⊢
  rwa [outcome_bind, h]

theorem endsFrom_world_bind {next : World ρ → Command ρ α} (h : (next s.world).EndsFrom s ok left) :
    (world >>= next).EndsFrom s ok left := h

theorem endsFrom_changeWorld_bind {f : World ρ → World ρ} {next : Unit → Command ρ α}
    (h : (next ()).EndsFrom { s with world := f s.world } ok left) :
    (changeWorld f >>= next).EndsFrom s ok left := h

end

/-! ## Quiet commands -/

/-- The same files, which the system opens alike. -/
structure SameFiles (w w' : World ρ) : Prop where
  disk : w'.disk = w.disk
  guard : w'.guard = w.guard

theorem SameFiles.refl (w : World ρ) : SameFiles w w := ⟨rfl, rfl⟩

theorem SameFiles.trans {w w' w'' : World ρ} (h : SameFiles w w') (h' : SameFiles w' w'') :
    SameFiles w w'' :=
  ⟨h'.disk.trans h.disk, h'.guard.trans h.guard⟩

/-- The files, the linter and standard input are as they were. -/
structure Untouched (s t : Session (World ρ)) : Prop where
  files : SameFiles s.world t.world
  linter : t.world.linter = s.world.linter
  input : t.world.input = s.world.input

theorem Untouched.disk {s t : Session (World ρ)} (h : Untouched s t) :
    t.world.disk = s.world.disk := h.files.disk

theorem Untouched.refl (s : Session (World ρ)) : Untouched s s := ⟨.refl _, rfl, rfl⟩

theorem Untouched.trans {s t u : Session (World ρ)} (h : Untouched s t) (h' : Untouched t u) :
    Untouched s u :=
  ⟨h.files.trans h'.files, h'.linter.trans h.linter, h'.input.trans h.input⟩

/-- The command neither exits nor touches the files, the linter and standard input. -/
def Quiet (command : Command ρ α) : Prop :=
  ∀ s, command.EndsFrom s (fun _ t => Untouched s t) (fun _ => False)

theorem quiet_pure (a : α) : Quiet (pure a : Command ρ α) := Untouched.refl

theorem quiet_ofExcept (r : Except Failure α) : Quiet (ofExcept r : Command ρ α) := by
  intro s
  exact (endsFrom_ofExcept r s).mono (fun _ _ h => h.2 ▸ Untouched.refl s) fun _ => id

theorem quiet_bind {command : Command ρ α} {next : α → Command ρ β} (h : Quiet command)
    (k : ∀ a, Quiet (next a)) : Quiet (command >>= next) := by
  intro s
  refine endsFrom_bind (h s) (fun _ => id) fun a t ht => ?_
  exact (k a t).mono (fun _ _ hu => ht.trans hu) fun _ => id

/-- A quiet command that is run under a condition, before a result. -/
theorem quiet_before {c : Prop} [Decidable c] {command : Command ρ β}
    (h : Quiet command) (a : α) (s : Session (World ρ)) :
    (if c then command >>= fun _ => pure a else pure a).EndsFrom s
      (fun b t => b = a ∧ Untouched s t) (fun _ => False) := by
  split
  · exact endsFrom_bind (h s) (fun _ => id) fun _ t ht => endsFrom_pure ⟨rfl, ht⟩
  · exact endsFrom_pure ⟨rfl, Untouched.refl s⟩

theorem Quiet.endsFrom {command : Command ρ α} (h : Quiet command) {P : World ρ → Prop}
    {s : Session (World ρ)} (hP : ∀ w, SameFiles s.world w → P w) :
    command.EndsFrom s (fun _ t => P t.world) (fun _ => False) :=
  (h s).mono (fun _ t ht => hP t.world ht.files) fun _ => id

theorem quiet_write (text : Text) : Quiet (write text : Command ρ Unit) :=
  fun _ => ⟨⟨rfl, rfl⟩, rfl, rfl⟩

theorem quiet_writeError (text : Text) : Quiet (writeError text : Command ρ Unit) :=
  fun _ => ⟨⟨rfl, rfl⟩, rfl, rfl⟩

theorem quiet_flushLog (verbose : Bool) : Quiet (flushLog verbose : Command ρ Unit) :=
  fun _ => ⟨⟨rfl, rfl⟩, rfl, rfl⟩

theorem quiet_say (markup : String) : Quiet (say markup : Command ρ Unit) :=
  quiet_bind (quiet_ofExcept _) quiet_write

theorem quiet_complain (verbose : Bool) (message : String) :
    Quiet (complain verbose message : Command ρ Unit) :=
  quiet_bind (quiet_ofExcept _) fun line =>
    quiet_bind (quiet_flushLog verbose) fun _ => quiet_writeError line

theorem quiet_writeJson (v : Value) : Quiet (writeJson v : Command ρ Unit) :=
  quiet_bind (quiet_ofExcept _) fun _ => quiet_write _

theorem quiet_sayWouldFix (reports : List FileReport) :
    Quiet (sayWouldFix reports : Command ρ Unit) := by
  induction reports with
  | nil => exact quiet_pure ()
  | cons r rest ih => exact quiet_bind (quiet_say _) fun _ => ih

theorem quiet_conclude (o : FormatOptions) (reports : List FileReport) :
    Quiet (conclude o reports : Command ρ Unit) := by
  unfold conclude
  simp only
  split
  · exact quiet_writeJson _
  · split
    · split
      · split
        · exact quiet_sayWouldFix _
        · exact quiet_pure ()
      · split
        · exact quiet_say _
        · exact quiet_pure ()
    · exact quiet_pure ()

/-! ## Exits -/

theorem refuse_ends (message : String) (s : Session (World ρ)) :
    (refuse message : Command ρ α).EndsFrom s (fun _ _ => False) (Untouched s) :=
  endsFrom_bind (quiet_writeError _ s) (fun _ => False.elim) fun _ _ h => endsFrom_stop h

end TidyImports.Command
