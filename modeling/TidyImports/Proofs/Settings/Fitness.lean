import TidyImports.Proofs.Settings.Precedence

/-!
# Whether loaded settings make sense

A field of loaded settings should hold a value of its kind and within its range. For most fields the
check sees to that. A switch is not checked at all, and a timeout only against zero, which NaN
passes.

* `Field.Fits` — the values that a field should hold;
* `Field.Passes` — those for which the check of a field is enough;
* `loadSettings_fits_iff` — a field fits exactly when what is given for it passes.
-/

namespace TidyImports

/-! ## Positive numbers -/

theorem Binary64.amountAt_pos_iff {k e : Int} {negative : Bool} {m : Nat} :
    0 < amountAt k negative m e ↔ negative = false ∧ m ≠ 0 := by
  have hpower : 0 < Nat.pow 2 (e - k).toNat := Nat.two_pow_pos _
  unfold amountAt
  cases negative with
  | true =>
    simp only [↓reduceIte, Bool.true_eq_false, false_and, iff_false]
    rw [← Int.natCast_mul]
    omega
  | false =>
    simp only [Bool.false_eq_true, ↓reduceIte, true_and]
    rw [← Int.natCast_mul, Int.natCast_pos, Nat.mul_pos_iff_of_pos_right hpower]
    omega

theorem Binary64.compare_zero_eq_gt_iff {x : Binary64} :
    x.compare (zero false) = some .gt ↔ x.atMostZero = false ∧ x ≠ .nan := by
  cases x with
  | nan => simp [compare]
  | infinite negative => cases negative <;> simp [compare, zero, atMostZero]
  | finite negative m e =>
    have hzero : amountAt (min e leastExponent) false 0 leastExponent = 0 := by simp [amountAt]
    simp [compare, zero, hzero, Int.compare_eq_gt, amountAt_pos_iff, atMostZero]

namespace Value

/-- A number above zero; NaN is none. -/
def Positive (v : Value) : Prop :=
  (∃ n, v = .int n ∧ 0 < n) ∨ ∃ x, v = .float x ∧ x.compare (Binary64.zero false) = some .gt

end Value

namespace Field

/-- The values that settings should hold for a field. -/
def Fits : Field → Value → Prop
  | .enabled, v | .removeUnused, v | .organize, v => ∃ b, v = .bool b
  | .autoImports, v => ∃ entries, v = .list entries ∧ ∀ e ∈ entries, e.IsEntry
  | .alwaysImport, v => ∃ items, v = .list items ∧ ∀ item ∈ items, item.Filled
  | .lineLength, v => ∃ n, v = .int n ∧ 1 ≤ n
  | .linesAfter, v => ∃ n, v = .int n ∧ -1 ≤ n
  | .depthLimit, v => ∃ n, v = .int n ∧ 0 ≤ n
  | .timeout, v => v.Positive

/-- The values for which the check of a field is enough: a switch must be given a truth value, and a
timeout no NaN. -/
def Passes (f : Field) (v : Value) : Prop :=
  (f.IsSwitch → ∃ b, v = .bool b) ∧ (f = .timeout → v ≠ .float .nan)

/-- Only switches and the timeout are given values that do not pass. -/
theorem passes_of_ne {f : Field} (hswitch : ¬ f.IsSwitch) (htimeout : f ≠ .timeout) (v : Value) :
    f.Passes v :=
  ⟨fun h => absurd h hswitch, fun h => absurd h htimeout⟩

theorem isEntry_ofTexts {name statement : String} (hname : Text.allBlank name.toList = false)
    (hstatement : Text.allBlank statement.toList = false) :
    (AutoImport.ofTexts name statement).toValue.IsEntry :=
  ⟨_, _, _, rfl, rfl, ⟨_, rfl, hname⟩, rfl, ⟨_, rfl, hstatement⟩⟩

/-- Every default fits its field. -/
theorem fits_default (f : Field) : f.Fits (Settings.get {} f) := by
  cases f with
  | enabled | removeUnused | organize => exact ⟨_, rfl⟩
  | autoImports =>
    refine ⟨_, rfl, ?_⟩
    simp only [AutoImport.defaults, List.map_cons, List.map_nil, List.forall_mem_cons]
    exact ⟨isEntry_ofTexts (by decide) (by decide), isEntry_ofTexts (by decide) (by decide),
      isEntry_ofTexts (by decide) (by decide), isEntry_ofTexts (by decide) (by decide), nofun⟩
  | alwaysImport => exact ⟨[], rfl, nofun⟩
  | lineLength | linesAfter | depthLimit => exact ⟨_, rfl, by decide⟩
  | timeout => exact Or.inr ⟨_, rfl, by decide +kernel⟩

theorem positive_float_iff {x : Binary64} :
    (Value.float x).Positive ↔ x.atMostZero = false ∧ x ≠ .nan := by
  simp [Value.Positive, Binary64.compare_zero_eq_gt_iff]

theorem positive_coerce_iff {v : Value} (h : Field.timeout.Accepts v) :
    (Field.timeout.coerce v).Positive ↔ v ≠ .float .nan := by
  obtain ⟨hfinite, hpositive⟩ := h
  cases v with
  | bool b =>
    cases b with
    | true => exact iff_of_true (Or.inr ⟨_, rfl, by decide +kernel⟩) nofun
    | false => exact absurd hpositive (by decide +kernel)
  | int n =>
    refine iff_of_true (positive_float_iff.mpr ⟨Option.some.inj hpositive, ?_⟩) nofun
    intro hnan
    have hfiniteNaN := hfinite n rfl
    rw [hnan] at hfiniteNaN
    cases hfiniteNaN
  | float x =>
    have hx : x.atMostZero = false := Option.some.inj hpositive
    rw [show Field.timeout.coerce (.float x) = .float x from rfl, positive_float_iff,
      and_iff_right hx, ne_eq, ne_eq, Value.float.injEq]
  | _ => cases hpositive

/-- What a field keeps of an accepted value fits exactly when the value passes. -/
theorem fits_coerce_iff {f : Field} {v : Value} (h : f.Accepts v) :
    f.Fits (f.coerce v) ↔ f.Passes v := by
  cases f with
  | enabled | removeUnused | organize =>
    exact ⟨fun hv => ⟨fun _ => hv, nofun⟩, fun hv => hv.1 (by decide)⟩
  | autoImports =>
    obtain ⟨entries, rfl, hentries⟩ := h
    refine iff_of_true ⟨_, rfl, ?_⟩ (passes_of_ne (by decide) (by decide) _)
    intro e he
    obtain ⟨entry, hentry, rfl⟩ := List.mem_map.mp he
    exact (hentries entry hentry).tidyEntry
  | alwaysImport | lineLength | linesAfter | depthLimit =>
    exact iff_of_true h (passes_of_ne (by decide) (by decide) v)
  | timeout =>
    exact (positive_coerce_iff h).trans ⟨fun hv => ⟨nofun, fun _ => hv⟩, fun hv => hv.2 rfl⟩

theorem Keeps.fits_iff {f : Field} {given : Option Value} {kept : Value} (h : f.Keeps given kept) :
    f.Fits kept ↔ ∀ v, given = some v → f.Passes v := by
  cases given with
  | none =>
    rw [keeps_none.mp h]
    exact iff_of_true (fits_default f) nofun
  | some v =>
    obtain ⟨haccepts, rfl⟩ := keeps_some.mp h
    rw [fits_coerce_iff haccepts]
    constructor
    · intro hpasses w hw
      cases hw
      exact hpasses
    · intro hpasses
      exact hpasses v rfl

end Field

/-! ## Loaded settings -/

/-- A field of loaded settings fits exactly when what the sources give for it passes: a truth value
where the field is a switch, and no NaN where it is the timeout. The other fields always fit. -/
theorem loadSettings_fits_iff {disk : Disk} {env : Environment} {overrides : Table}
    {start : PathName} {s : Settings} (h : loadSettings disk env overrides start = .ok s) :
    ∃ given, Given disk env overrides start given ∧
      (∀ f : Field, f.Fits (s.get f) ↔ ∀ v, given f = some v → f.Passes v) ∧
      ∀ f : Field, ¬ f.IsSwitch → f ≠ .timeout → f.Fits (s.get f) := by
  obtain ⟨given, hgiven, hkeeps⟩ := loadSettings_eq_ok_iff.mp h
  refine ⟨given, hgiven, fun f => (hkeeps f).fits_iff, fun f hswitch htimeout => ?_⟩
  exact (hkeeps f).fits_iff.mpr fun v _ => Field.passes_of_ne hswitch htimeout v

theorem loadSettings_fits_iff_layered :
    ∃ s, loadSettings layeredDisk layeredEnvironment [("line-length", .int 90)] (.ofString ".") =
        .ok s ∧
      ∃ given,
        Given layeredDisk layeredEnvironment [("line-length", .int 90)] (.ofString ".") given ∧
        (∀ f : Field, f.Fits (s.get f) ↔ ∀ v, given f = some v → f.Passes v) ∧
        ∀ f : Field, ¬ f.IsSwitch → f ≠ .timeout → f.Fits (s.get f) := by
  have hvalue : ((loadSettings layeredDisk layeredEnvironment [("line-length", .int 90)]
      (.ofString ".")).toOption.map Settings.lineLength) = some 90 := by
    decide +kernel
  obtain ⟨s, hload, -⟩ := Except.toOption_map_eq_some_iff.mp hvalue
  exact ⟨s, hload, loadSettings_fits_iff hload⟩

/-- A file of that name and text in the root of an otherwise empty disk. -/
def Disk.holding (name text : String) : Disk where
  entries := [([name], .file (Utf8.encode text.toList))]
  current := []

/-- A text as a switch and NaN as a timeout. -/
def looseDisk : Disk := .holding rcName "enabled = \"no\"\noracle_timeout = nan\n"

theorem loadSettings_unfit :
    ∃ s, loadSettings looseDisk [] [] (.ofString ".") = .ok s ∧
      ¬ Field.enabled.Fits (s.get .enabled) ∧ ¬ Field.timeout.Fits (s.get .timeout) := by
  have hvalues : ((loadSettings looseDisk [] [] (.ofString ".")).toOption.map fun s =>
      s.enabled.same (.text "no") && s.timeout.isNaN) = some true := by
    decide +kernel
  obtain ⟨s, hload, hs⟩ := Except.toOption_map_eq_some_iff.mp hvalues
  obtain ⟨henabled, htimeout⟩ :
      s.enabled.same (.text "no") = true ∧ s.timeout.isNaN = true := by
    simpa using hs
  refine ⟨s, hload, ?_, ?_⟩
  · rintro ⟨b, hb⟩
    rw [show s.enabled = .bool b from hb] at henabled
    cases b <;> cases henabled
  · rintro (⟨n, hn, -⟩ | ⟨x, hx, hpositive⟩)
    · rw [show s.timeout = .int n from hn] at htimeout
      cases htimeout
    · rw [show s.timeout = .float x from hx] at htimeout
      refine (Binary64.compare_zero_eq_gt_iff.mp hpositive).2 ?_
      cases x <;> first | rfl | cases htimeout

end TidyImports
