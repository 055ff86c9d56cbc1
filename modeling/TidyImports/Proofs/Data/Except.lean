/-!
# Steps that may fail

When a mapped result or a step after a step succeeds, and when a step after a step fails.
`FailsOnly` steps fail, if at all, in an expected way; `FirstStray` is where a walk over a list
fails in another way.
-/

namespace TidyImports.Except

variable {ε ε' α β : Type}

theorem map_eq_ok_iff {x : Except ε α} {f : α → β} {b : β} :
    x.map f = .ok b ↔ ∃ a, x = .ok a ∧ f a = b := by
  cases x with
  | error e => simp [Except.map]
  | ok a => simp [Except.map]

theorem mapError_eq_ok_iff {x : Except ε α} {f : ε → ε'} {a : α} :
    x.mapError f = .ok a ↔ x = .ok a := by
  cases x with
  | error e => exact iff_of_false nofun nofun
  | ok b => exact ⟨fun h => congrArg Except.ok (Except.ok.inj h), fun h => h ▸ rfl⟩

theorem mapError_eq_error_iff {x : Except ε α} {f : ε → ε'} {e' : ε'} :
    x.mapError f = .error e' ↔ ∃ e, x = .error e ∧ f e = e' := by
  cases x with
  | error e =>
    constructor
    · intro h
      exact ⟨e, rfl, Except.error.inj h⟩
    · rintro ⟨_, ⟨⟩, rfl⟩
      rfl
  | ok a =>
    refine iff_of_false nofun ?_
    rintro ⟨_, ⟨⟩, -⟩

theorem bind_eq_ok_iff {x : Except ε α} {f : α → Except ε β} {b : β} :
    x >>= f = .ok b ↔ ∃ a, x = .ok a ∧ f a = .ok b := by
  cases x with
  | error e => simp [bind, Except.bind]
  | ok a => simp [bind, Except.bind]

theorem bind_eq_error_iff {x : Except ε α} {f : α → Except ε β} {e : ε} :
    x >>= f = .error e ↔ x = .error e ∨ ∃ a, x = .ok a ∧ f a = .error e := by
  cases x with
  | error e' => simp [bind, Except.bind]
  | ok a => simp [bind, Except.bind]

/-- A step that always fails in one way and one that never does are alike only where neither is
reached. -/
theorem bind_error_eq_bind_iff {x : Except ε α} {next : α → Except ε β} {e : ε}
    (h : ∀ a, next a ≠ .error e) :
    (x >>= fun _ => .error e) = x >>= next ↔ ∃ e', x = .error e' := by
  cases x with
  | error e' => simp [bind, Except.bind]
  | ok a => simpa [bind, Except.bind] using (h a).symm

theorem toOption_map_eq_some_iff {x : Except ε α} {f : α → β} {b : β} :
    x.toOption.map f = some b ↔ ∃ a, x = .ok a ∧ f a = b := by
  cases x with
  | error e => simp [Except.toOption]
  | ok a => simp [Except.toOption]

/-- A list whose first item and whose rest are worked out one after the other. -/
theorem cons_ok_iff {x : Except ε α} {xs : Except ε (List α)} :
    (∃ all, (do let a ← x; let rest ← xs; pure (a :: rest)) = .ok all) ↔
      (∃ a, x = .ok a) ∧ ∃ rest, xs = .ok rest := by
  simp only [bind_eq_ok_iff]
  constructor
  · rintro ⟨_, a, ha, rest, hrest, -⟩
    exact ⟨⟨a, ha⟩, rest, hrest⟩
  · rintro ⟨⟨a, ha⟩, rest, hrest⟩
    exact ⟨_, a, ha, rest, hrest, rfl⟩

/-! ## Expected failures -/

/-- If it fails, then in the expected way. -/
def FailsOnly (expected : ε → Prop) (x : Except ε α) : Prop := ∀ e, x = .error e → expected e

section

variable {expected : ε → Prop}

@[simp]
theorem failsOnly_ok (a : α) : FailsOnly expected (.ok a : Except ε α) := nofun

@[simp]
theorem failsOnly_pure (a : α) : FailsOnly expected (pure a : Except ε α) := nofun

@[simp]
theorem failsOnly_error {e : ε} : FailsOnly expected (.error e : Except ε α) ↔ expected e := by
  simp [FailsOnly]

theorem failsOnly_bind {x : Except ε α} {next : α → Except ε β} :
    FailsOnly expected (x >>= next) ↔
      FailsOnly expected x ∧ ∀ a, x = .ok a → FailsOnly expected (next a) := by
  cases x with
  | error e => simp [bind, Except.bind]
  | ok a => simp [bind, Except.bind]

theorem failsOnly_map {x : Except ε α} {f : α → β} :
    FailsOnly expected (x.map f) ↔ FailsOnly expected x := by
  cases x with
  | error e => simp [Except.map]
  | ok a => simp [Except.map]

end

/-- Whether it fails in a way that passes the test. -/
def failsWith (test : ε → Bool) : Except ε α → Bool
  | .error e => test e
  | .ok _ => false

theorem failsWith_iff {test : ε → Bool} {x : Except ε α} :
    failsWith test x = true ↔ ∃ e, x = .error e ∧ test e = true := by
  cases x with
  | error e => simp [failsWith]
  | ok a => simp [failsWith]

/-! ## Walks over a list -/

/-- The first item that does not fit is a stray one. -/
def FirstStray (fits stray : α → Prop) (items : List α) : Prop :=
  ∃ before item after, items = before ++ item :: after ∧ (∀ x ∈ before, fits x) ∧ stray item

section

variable {fits stray : α → Prop}

theorem not_firstStray_nil : ¬ FirstStray fits stray [] := by
  rintro ⟨before, item, after, hsplit, -⟩
  cases before <;> cases hsplit

theorem firstStray_cons_iff {item : α} {rest : List α} :
    FirstStray fits stray (item :: rest) ↔
      stray item ∨ (fits item ∧ FirstStray fits stray rest) := by
  constructor
  · rintro ⟨before, found, after, hsplit, hbefore, hstray⟩
    cases before with
    | nil =>
      cases hsplit
      exact Or.inl hstray
    | cons first before =>
      cases hsplit
      obtain ⟨hfirst, hbefore⟩ := List.forall_mem_cons.mp hbefore
      exact Or.inr ⟨hfirst, before, found, after, rfl, hbefore, hstray⟩
  · rintro (hstray | ⟨hitem, before, found, after, rfl, hbefore, hstray⟩)
    · exact ⟨[], item, rest, rfl, nofun, hstray⟩
    · exact ⟨item :: before, found, after, rfl, List.forall_mem_cons.mpr ⟨hitem, hbefore⟩, hstray⟩

end

end TidyImports.Except
