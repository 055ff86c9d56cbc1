import Mathlib.Order.Nat
import TidyImports.Proofs.Converge.Trail

/-!
# Runs as iteration of a round

When the answers of a linter depend on nothing but the text and the configuration, one round is a
partial function on texts (`afterRound?`), and a run iterates it.

* `pass_outcome`, `round_outcome` — a pass and a round compute these functions, and call the linter
  once for each configuration, on the text left by the call before (`Asked`).
* `settle_settles`, `settle_exceeds` — the rounds end with the first that changes nothing, or with
  the last that the limit allows.
* `converge_eq_rounds` — what this says of a whole run.
-/

namespace TidyImports

/-! ## Linters without memory -/

section

variable {σ : Type}

/-- The linter never fails and answers by `check`; what its state keeps has no influence. -/
def Linter.Answers (linter : Linter σ) (check : Text → Config → List Diagnostic)
    (record : σ → Text × Config → σ) : Prop :=
  ∀ text config s, ∃ log, (linter text config).outcome s =
    (.ok (check text config), ⟨record s.world (text, config), log⟩)

variable (check : Text → Config → List Diagnostic) (record : σ → Text × Config → σ)

/-- Answers by `check` and keeps the calls, the latest last. -/
def Linter.recording : Linter (List (Text × Config)) := fun text config => do
  Run.step fun calls => ((), calls ++ [(text, config)])
  pure (check text config)

/-- The text after one pass. There is none if an edit is no text or lies outside. -/
def afterPass? (text : Text) (config : Config) : Option Text := do
  let edits ← Proposal.batch? (Diagnostic.proposals (check text config))
  (applyAll text (normalize edits)).toOption

def afterRound? (configs : List Config) (text : Text) : Option Text :=
  configs.foldlM (afterPass? check) text

def afterRounds? (configs : List Config) : Nat → Text → Option Text
  | 0, text => some text
  | n + 1, text => afterRound? check configs text >>= afterRounds? configs n

/-- Calls from `text` on, each on the text that the one before it left; the last leaves `final`. -/
inductive Chained : Text → List (Text × Config) → Text → Prop
  | nil (text : Text) : Chained text [] text
  | cons {text next final : Text} {config : Config} {calls : List (Text × Config)}
      (pass : afterPass? check text config = some next) (rest : Chained next calls final) :
      Chained text ((text, config) :: calls) final

/-- Between the sessions `s` and `t` the linter was called once for each of `configs`, in order, on
a chain of texts. -/
def Asked (configs : List Config) (text final : Text) (s t : Session σ) : Prop :=
  ∃ calls, Chained check text calls final ∧ calls.map Prod.snd = configs ∧
    t.world = calls.foldl record s.world

end

section

variable {σ : Type} {check : Text → Config → List Diagnostic} {record : σ → Text × Config → σ}

theorem Linter.recording_answers :
    (Linter.recording check).Answers check fun calls call => calls ++ [call] :=
  fun _ _ s => ⟨s.log, rfl⟩

theorem Chained.append {text mid final : Text} {calls calls' : List (Text × Config)}
    (h : Chained check text calls mid) (h' : Chained check mid calls' final) :
    Chained check text (calls ++ calls') final := by
  induction h with
  | nil => exact h'
  | cons pass _ ih => exact .cons pass (ih h')

theorem asked_nil (text : Text) (s : Session σ) : Asked check record [] text text s s :=
  ⟨[], .nil text, rfl, rfl⟩

theorem Asked.trans {configs configs' : List Config} {text mid final : Text} {s t u : Session σ}
    (h : Asked check record configs text mid s t) (h' : Asked check record configs' mid final t u) :
    Asked check record (configs ++ configs') text final s u := by
  obtain ⟨calls, hc, hconfigs, hworld⟩ := h
  obtain ⟨calls', hc', hconfigs', hworld'⟩ := h'
  refine ⟨calls ++ calls', hc.append hc', ?_, ?_⟩
  · rw [List.map_append, hconfigs, hconfigs']
  · rw [List.foldl_append, hworld', hworld]

/-! ## Passes and rounds -/

variable {linter : Linter σ}

theorem pass_outcome (hl : linter.Answers check record) (n : Nat) {p : Progress} {config : Config}
    {text : Text} (hlabel : ∃ label, config.label = .ok label)
    (h : afterPass? check p.text config = some text) (s : Session σ) :
    ∃ batches t, (pass linter n p config).outcome s = (.ok ⟨text, batches⟩, t) ∧
      Asked check record [config] p.text text s t := by
  obtain ⟨log, hcall⟩ := hl p.text config s
  obtain ⟨label, hlabel⟩ := hlabel
  have hasked : ∀ log', Asked check record [config] p.text text s
      ⟨record s.world (p.text, config), log'⟩ := fun _ =>
    ⟨[(p.text, config)], .cons h (.nil text), rfl, rfl⟩
  obtain ⟨edits, hedits, htext⟩ := Option.bind_eq_some_iff.mp h
  have hproposed : linter.Proposes p.text config s edits ⟨record s.world (p.text, config), log⟩ :=
    ⟨check p.text config, hcall, hedits⟩
  -- an empty batch is not applied, and applying it would leave the text as it is
  cases hn : normalize edits with
  | nil =>
    rw [hn] at htext
    cases htext
    exact ⟨p.batches, _, pass_idle n hproposed hn, hasked log⟩
  | cons e rest =>
    rw [hn] at htext
    cases ha : applyAll p.text (e :: rest) with
    | error fault =>
      rw [ha] at htext
      cases htext
    | ok next =>
      rw [ha] at htext
      cases htext
      exact ⟨_, _, pass_fixed n hproposed hn (by simp) hlabel ha, hasked _⟩

theorem round_outcome (hl : linter.Answers check record) (n : Nat) {p : Progress}
    {configs : List Config} {text : Text} (hlabel : ∀ c ∈ configs, ∃ label, c.label = .ok label)
    (h : afterRound? check configs p.text = some text) (s : Session σ) :
    ∃ batches t, (round linter n p configs).outcome s = (.ok ⟨text, batches⟩, t) ∧
      Asked check record configs p.text text s t := by
  induction configs generalizing p s with
  | nil =>
    cases h
    exact ⟨p.batches, s, rfl, asked_nil p.text s⟩
  | cons config rest ih =>
    rw [afterRound?, List.foldlM_cons] at h
    obtain ⟨next, hpass, hrest⟩ := Option.bind_eq_some_iff.mp h
    obtain ⟨batches, t, ho, hasked⟩ :=
      pass_outcome hl n (hlabel config List.mem_cons_self) hpass s
    obtain ⟨batches', u, ho', hasked'⟩ :=
      ih (p := ⟨next, batches⟩) (fun c hc => hlabel c (List.mem_cons_of_mem _ hc)) hrest t
    refine ⟨batches', u, ?_, hasked.trans hasked'⟩
    rw [round, Run.outcome_bind, ho]
    exact ho'

/-! ## Whole runs -/

theorem afterRounds?_succ (configs : List Config) (n : Nat) {text next : Text}
    (h : afterRound? check configs text = some next) :
    afterRounds? check configs (n + 1) text = afterRounds? check configs n next := by
  rw [afterRounds?, h]
  rfl

/-- Of a number of rounds that is possible, all smaller ones are. -/
theorem exists_afterRounds?_of_le {configs : List Config} {m n : Nat} {text final : Text}
    (hle : m ≤ n) (h : afterRounds? check configs n text = some final) :
    ∃ reached, afterRounds? check configs m text = some reached := by
  induction m generalizing n text with
  | zero => exact ⟨text, rfl⟩
  | succ m ih =>
    obtain ⟨n, rfl⟩ : ∃ n', n = n' + 1 := ⟨n - 1, by omega⟩
    obtain ⟨next, hnext, hrest⟩ := Option.bind_eq_some_iff.mp h
    rw [afterRounds?_succ configs m hnext]
    exact ih (by omega) hrest

/-- Each of the first `k` rounds changes the text. -/
def Unsettled (check : Text → Config → List Diagnostic) (configs : List Config) (k : Nat)
    (text : Text) : Prop :=
  ∀ j < k, afterRounds? check configs (j + 1) text ≠ afterRounds? check configs j text

theorem Unsettled.step {configs : List Config} {k : Nat} {text next : Text}
    (h : Unsettled check configs (k + 1) text) (hround : afterRound? check configs text = some next) :
    next ≠ text ∧ Unsettled check configs k next := by
  constructor
  · rintro rfl
    exact h 0 (by omega) (afterRounds?_succ configs 0 hround)
  · intro j hj
    have hstep := h (j + 1) (by omega)
    rwa [afterRounds?_succ configs _ hround, afterRounds?_succ configs _ hround] at hstep

/-- A round that changes the text is followed by the rounds that are left. -/
theorem settle_step (hl : linter.Answers check record) (limit : Nat) {configs : List Config}
    (hlabel : ∀ c ∈ configs, ∃ label, c.label = .ok label) (left n : Nat) {p : Progress}
    {next : Text} (hround : afterRound? check configs p.text = some next) (hne : next ≠ p.text)
    (s : Session σ) :
    ∃ batches t, (settle linter limit configs (left + 1) n p).outcome s =
        (settle linter limit configs left (n + 1) ⟨next, batches⟩).outcome t ∧
      Asked check record configs p.text next s t := by
  obtain ⟨batches, t, ho, hasked⟩ := round_outcome hl n hlabel hround s
  refine ⟨batches, t, ?_, hasked⟩
  rw [settle, Run.outcome_bind, ho]
  dsimp only
  rw [if_neg hne]

/-- Round `k` from here is the first that leaves the text as it was, and it is within the limit. -/
theorem settle_settles (hl : linter.Answers check record) (limit : Nat) {configs : List Config}
    (hlabel : ∀ c ∈ configs, ∃ label, c.label = .ok label) {left n k : Nat} {p : Progress}
    {final : Text} (hk : k ≤ left) (hfinal : afterRounds? check configs k p.text = some final)
    (hsame : afterRounds? check configs (k + 1) p.text = afterRounds? check configs k p.text)
    (hun : Unsettled check configs k p.text) (s : Session σ) :
    ∃ batches t, (settle linter limit configs (left + 1) n p).outcome s =
        (.ok ⟨final, batches, n + k + 1⟩, t) ∧
      Asked check record (List.replicate (k + 1) configs).flatten p.text final s t := by
  induction k generalizing left n p s with
  | zero =>
    cases hfinal
    obtain ⟨next, hround, hnext⟩ := Option.bind_eq_some_iff.mp hsame
    cases hnext
    obtain ⟨batches, t, ho, hasked⟩ := round_outcome hl n hlabel hround s
    refine ⟨batches, t, ?_, by simpa using hasked⟩
    rw [settle, Run.outcome_bind, ho]
    simp
  | succ k ih =>
    obtain ⟨left, rfl⟩ : ∃ left', left = left' + 1 := ⟨left - 1, by omega⟩
    obtain ⟨next, hround, hnext⟩ := Option.bind_eq_some_iff.mp hfinal
    obtain ⟨hne, hun⟩ := hun.step hround
    obtain ⟨batches, t, ho, hasked⟩ := settle_step hl limit hlabel (left + 1) n hround hne s
    rw [afterRounds?_succ configs _ hround, afterRounds?_succ configs _ hround] at hsame
    obtain ⟨batches', u, ho', hasked'⟩ :=
      ih (n := n + 1) (p := ⟨next, batches⟩) (Nat.le_of_succ_le_succ hk) hnext hsame hun t
    refine ⟨batches', u, ?_, ?_⟩
    · rw [ho, ho', Nat.add_right_comm n 1 k, Nat.add_assoc n k 1]
    · rw [List.replicate_succ, List.flatten_cons]
      exact hasked.trans hasked'

/-- Every round that the limit allows changes the text. -/
theorem settle_exceeds (hl : linter.Answers check record) (limit : Nat) {configs : List Config}
    (hlabel : ∀ c ∈ configs, ∃ label, c.label = .ok label) {left n : Nat} {p : Progress}
    {reached : Text} (hreached : afterRounds? check configs left p.text = some reached)
    (hun : Unsettled check configs left p.text) (s : Session σ) :
    ∃ batches t, (settle linter limit configs left n p).outcome s =
        (.error (.depthLimit limit reached batches), t) ∧
      Asked check record (List.replicate left configs).flatten p.text reached s t := by
  induction left generalizing n p s with
  | zero =>
    cases hreached
    exact ⟨p.batches, s, rfl, asked_nil p.text s⟩
  | succ left ih =>
    obtain ⟨next, hround, hnext⟩ := Option.bind_eq_some_iff.mp hreached
    obtain ⟨hne, hun⟩ := hun.step hround
    obtain ⟨batches, t, ho, hasked⟩ := settle_step hl limit hlabel left n hround hne s
    obtain ⟨batches', u, ho', hasked'⟩ := ih (n := n + 1) (p := ⟨next, batches⟩) hnext hun t
    refine ⟨batches', u, by rw [ho, ho'], ?_⟩
    rw [List.replicate_succ, List.flatten_cons]
    exact hasked.trans hasked'

/-- **Runs as iterated rounds.** Let the linter have no memory, the configurations have labels, as
all do whose rules are texts, and the edits of the first `limit + 1` rounds be possible. If the
first round that leaves the text as it was has a number up to `limit`, counted from zero, then the
run returns its text after exactly that round; else it fails with the text of the last round. The
linter is called once for each configuration of each round. -/
theorem converge_eq_rounds (hl : linter.Answers check record) {configs : List Config}
    (hlabel : ∀ c ∈ configs, ∃ label, c.label = .ok label) {limit : Nat} {text reached : Text}
    (hin : afterRounds? check configs (limit + 1) text = some reached) (s : Session σ) :
    (∀ k ≤ limit,
      IsLeast {j | afterRounds? check configs (j + 1) text = afterRounds? check configs j text} k →
      ∃ final batches t, afterRounds? check configs k text = some final ∧
        (converge linter limit text configs).outcome s = (.ok ⟨final, batches, k + 1⟩, t) ∧
        Asked check record (List.replicate (k + 1) configs).flatten text final s t) ∧
    ((¬ ∃ k ≤ limit,
      IsLeast {j | afterRounds? check configs (j + 1) text = afterRounds? check configs j text} k) →
      ∃ batches t, (converge linter limit text configs).outcome s =
          (.error (.depthLimit limit reached batches), t) ∧
        Asked check record (List.replicate (limit + 1) configs).flatten text reached s t) := by
  refine ⟨fun k hk hleast => ?_, fun hnone => ?_⟩
  · obtain ⟨final, hfinal⟩ := exists_afterRounds?_of_le (Nat.le_succ_of_le hk) hin
    have hun : Unsettled check configs k text := fun j hj hsame =>
      absurd (hleast.2 hsame) (Nat.not_le_of_lt hj)
    obtain ⟨batches, t, ho, hasked⟩ := settle_settles hl limit hlabel (n := 0) (p := ⟨text, []⟩)
      hk hfinal hleast.1 hun s
    rw [Nat.zero_add] at ho
    exact ⟨final, batches, t, hfinal, ho, hasked⟩
  · have hun : Unsettled check configs (limit + 1) text := by
      intro j hj hsame
      -- some round changes nothing, so there is a first one, and it is within the limit
      have hex : ∃ i, afterRounds? check configs (i + 1) text = afterRounds? check configs i text :=
        ⟨j, hsame⟩
      exact hnone ⟨Nat.find hex, (Nat.find_min' hex hsame).trans (Nat.le_of_lt_succ hj),
        Nat.isLeast_find hex⟩
    exact settle_exceeds hl limit hlabel (n := 0) (p := ⟨text, []⟩) hin hun s

end

def Config.toY : Config := { select := some [.text "X001"], name := "to-y" }

def Config.toZ : Config := { select := some [.text "X002"], name := "to-z" }

/-- Under `Config.toY` an `x` becomes a `y`, and under `Config.toZ` a `y` becomes a `z`. -/
def letterCheck (text : Text) (config : Config) : List Diagnostic :=
  let all : Range := ⟨⟨0, 0⟩, ⟨0, 1⟩, by decide⟩
  if text = ['x'] ∧ config.same .toY then [⟨.null, .null, some [.ofEdit ⟨all, ['y']⟩], none⟩]
  else if text = ['y'] ∧ config.same .toZ then [⟨.null, .null, some [.ofEdit ⟨all, ['z']⟩], none⟩]
  else []

/-- One round leads to `z`, and a second finds nothing to do if the limit allows it. -/
theorem converge_eq_rounds_letters :
    (∃ final batches t, afterRounds? letterCheck [.toY, .toZ] 1 ['x'] = some final ∧
      (converge (Linter.recording letterCheck) 1 ['x'] [.toY, .toZ]).outcome (.start []) =
        (.ok ⟨final, batches, 2⟩, t) ∧
      Asked letterCheck (fun calls call => calls ++ [call]) [.toY, .toZ, .toY, .toZ] ['x'] final
        (.start []) t) ∧
    ∃ batches t,
      (converge (Linter.recording letterCheck) 0 ['x'] [.toY, .toZ]).outcome (.start []) =
        (.error (.depthLimit 0 ['z'] batches), t) ∧
      Asked letterCheck (fun calls call => calls ++ [call]) [.toY, .toZ] ['x'] ['z']
        (.start []) t := by
  let configs : List Config := [.toY, .toZ]
  have hlabel : ∀ c ∈ configs, ∃ label, c.label = .ok label := by
    intro c hc
    simp only [configs, List.mem_cons, List.not_mem_nil, or_false] at hc
    rcases hc with rfl | rfl
    · exact ⟨"to-y", rfl⟩
    · exact ⟨"to-z", rfl⟩
  have hone : afterRounds? letterCheck configs 1 ['x'] = some ['z'] := by with_unfolding_all rfl
  have htwo : afterRounds? letterCheck configs 2 ['x'] = some ['z'] := by with_unfolding_all rfl
  have hfirst :
      afterRounds? letterCheck configs 1 ['x'] ≠ afterRounds? letterCheck configs 0 ['x'] := by
    rw [hone]
    simp [afterRounds?]
  constructor
  · refine (converge_eq_rounds Linter.recording_answers hlabel htwo (.start [])).1 1 le_rfl
      ⟨htwo.trans hone.symm, fun j hj => ?_⟩
    rcases Nat.eq_zero_or_pos j with rfl | hpos
    · exact absurd hj hfirst
    · exact hpos
  · refine (converge_eq_rounds Linter.recording_answers hlabel hone (.start [])).2 ?_
    rintro ⟨k, hk, hleast⟩
    obtain rfl := Nat.le_zero.mp hk
    exact hfirst hleast.1

end TidyImports
