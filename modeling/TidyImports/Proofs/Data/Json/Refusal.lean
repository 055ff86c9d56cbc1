import TidyImports.Proofs.Data.Json.RoundTrip

/-!
# Values written as JSON and refused

An integer may be written in more digits than may be read. Where such an integer is the first
obstacle of a value, reading what is written for the value goes well up to it and is refused there.
The proof goes through lists and tables with what is known of each part (`Answered`): it is read
back, or it is refused.

* `readItems_overflows`, `readEntries_overflows` — a list and a table with such a part;
* `refused_of_digits` — a value whose first obstacle is such an integer;
* `parse_write_tooLong` — a whole text.
-/

namespace TidyImports.Json

/-! ## Refusals for length -/

/-- Reading ended at an integer of too many digits. -/
def Overflows {α : Type} (r : Except Refusal α) : Prop :=
  ∃ digits, Numeral.digitLimit < digits ∧ r = .error (.tooLong digits)

theorem Overflows.bind {α β : Type} {r : Except Refusal α} (h : Overflows r)
    (next : α → Except Refusal β) : Overflows (r >>= next) := by
  obtain ⟨digits, hlong, rfl⟩ := h
  exact ⟨digits, hlong, rfl⟩

theorem Overflows.map {α β : Type} {r : Except Refusal α} (h : Overflows r) (f : α → β) :
    Overflows (r.map f) := by
  obtain ⟨digits, hlong, rfl⟩ := h
  exact ⟨digits, hlong, rfl⟩

theorem overflows_readDigits {n : Int} (h : Numeral.tooManyDigits n = true) (rest : Text) (m : Int) :
    Overflows (readDigits (Nat.toDigits 10 n.natAbs) rest m) := by
  have hlong : Numeral.digitLimit < (Nat.toDigits 10 n.natAbs).length := by
    rw [← Nat.not_le, Numeral.length_toDigits_le_iff, h]
    exact Bool.noConfusion
  rw [readDigits, if_pos hlong]
  exact ⟨_, hlong, rfl⟩

/-! ## Parts of a value -/

def Refused (style : Style) (depth : Nat) (v : Value) : Prop :=
  ∀ fuel rest, 2 * (write style depth v).length ≤ fuel → EndsNumber rest →
    Overflows (readValue fuel (write style depth v ++ rest))

/-- What is written for the value is read back, or is refused where too long an integer is the
first obstacle. -/
structure Answered (style : Style) (depth : Nat) (v : Value) : Prop where
  starts : ∃ c text, write style depth v = c :: text ∧ white c = false ∧ c ≠ ']'
  back : v.obstacle? = none → ReadBack style depth v
  refused : v.obstacle? = some .digits → Refused style depth v

theorem Answered.skip {style : Style} {depth : Nat} {v : Value} (h : Answered style depth v)
    (gap : Text) (hgap : ∀ c ∈ gap, white c = true) (rest : Text) :
    Json.skip (gap ++ (write style depth v ++ rest)) = write style depth v ++ rest :=
  skip_gap h.starts gap hgap rest

theorem write_starts {v : Value} (hw : v.Whole) (style : Style) (depth : Nat) :
    ∃ c text, write style depth v = c :: text ∧ white c = false ∧ c ≠ ']' := by
  cases hw with
  | null => exact ⟨'n', _, rfl, by decide⟩
  | bool b => cases b with
    | false => exact ⟨'f', _, rfl, by decide⟩
    | true => exact ⟨'t', _, rfl, by decide⟩
  | int n =>
    obtain ⟨c, text, heq, hc⟩ := Numeral.exists_toString_eq_cons n
    exact ⟨c, text, heq, white_of_number hc, ne_of_number hc (by decide)⟩
  | text s => exact ⟨'"', _, rfl, by decide⟩
  | moment m => exact ⟨'"', _, rfl, by decide⟩
  | @list items each => cases items with
    | nil => exact ⟨'[', _, rfl, by decide⟩
    | cons v vs => exact ⟨'[', _, rfl, by decide⟩
  | @table entries each => cases entries with
    | nil => exact ⟨'\x7b', _, rfl, by decide⟩
    | cons e es => exact ⟨'\x7b', _, rfl, by decide⟩

/-! ## Lists and tables -/

theorem readItems_overflows {style : Style} {depth : Nat} {v : Value} {vs : List Value}
    (hall : ∀ w ∈ v :: vs, Answered style depth w)
    (hdigits : Value.itemsObstacle? (v :: vs) = some .digits) {closing : Text}
    (hends : EndsNumber closing) (fuel : Nat)
    (hfuel : 2 * ((write style depth v).length + (writeItems style depth vs).length) < fuel) :
    Overflows (readItems fuel (write style depth v ++ (writeItems style depth vs ++ closing))) := by
  induction vs generalizing v fuel with
  | nil =>
    obtain ⟨fuel, rfl⟩ : ∃ n, fuel = n + 1 := ⟨fuel - 1, by omega⟩
    have hv := hall v List.mem_cons_self
    rw [Value.itemsObstacle?, Value.itemsObstacle?, Option.or_none] at hdigits
    rw [readItems]
    exact (hv.refused hdigits fuel _ (by omega) (endsNumber_writeItems style depth [] hends)).bind _
  | cons w ws ih =>
    obtain ⟨fuel, rfl⟩ : ∃ n, fuel = n + 1 := ⟨fuel - 1, by omega⟩
    obtain ⟨hv, hrest⟩ := List.forall_mem_cons.mp hall
    have hmore := endsNumber_writeItems style depth (w :: ws) hends
    rw [Value.itemsObstacle?] at hdigits
    rw [readItems]
    -- reading ends at the first item with an obstacle, so what the others hold does not matter
    cases hobstacle : v.obstacle? with
    | some obstacle =>
      rw [hobstacle, Option.some_or] at hdigits
      exact (hv.refused (hobstacle.trans hdigits) fuel _ (by omega) hmore).bind _
    | none =>
      rw [hobstacle, Option.none_or] at hdigits
      have hread := (hv.back hobstacle).reads fuel _ (by omega) hmore
      obtain ⟨gap, hcomma, hgap⟩ := comma_eq style depth
      rw [writeItems, hcomma] at hfuel
      simp only [List.length_append, List.length_cons] at hfuel
      obtain ⟨digits, hlong, hlater⟩ := ih hrest hdigits fuel (by omega)
      rw [← (hrest w List.mem_cons_self).skip gap hgap] at hlater
      refine ⟨digits, hlong, ?_⟩
      rw [hread, writeItems, hcomma]
      simp only [bind, Except.bind, List.cons_append, List.append_assoc]
      rw [skip_cons (by rfl)]
      simp [hlater]

/-- One entry whose value is refused, or behind which the table is. -/
theorem readEntries_entry_overflows {style : Style} {depth : Nat} {k : String} {v : Value}
    {before : Table} (hv : Answered style depth v) {after : Text} (hends : EndsNumber after)
    {fuel : Nat} (hfuel : 2 * (write style depth v).length ≤ fuel)
    (h : v.obstacle? = some .digits ∨ v.obstacle? = none ∧ ∃ rest, skip after = ',' :: rest ∧
      Overflows (readEntries fuel (before.put k v) (skip rest))) :
    Overflows (readEntries (fuel + 1) before (writeText style.ascii k ++
      (':' :: ' ' :: (write style depth v ++ after)))) := by
  obtain ⟨body, hbody, hkey⟩ := readText_writeText style.ascii k
    (':' :: ' ' :: (write style depth v ++ after))
  have hgap := hv.skip [' '] (List.forall_mem_singleton.mpr rfl) after
  rw [List.singleton_append] at hgap
  rw [hbody, readEntries, hkey]
  simp only [bind, Except.bind]
  rw [skip_cons (by rfl)]
  simp only [hgap]
  rcases h with hdigits | ⟨hnone, rest, hskip, digits, hlong, hlater⟩
  · obtain ⟨digits, hlong, hread⟩ := hv.refused hdigits fuel after hfuel hends
    exact ⟨digits, hlong, by simp only [hread]⟩
  · have hread := (hv.back hnone).reads fuel after hfuel hends
    exact ⟨digits, hlong, by simp [hread, hskip, hlater]⟩

theorem readEntries_overflows {style : Style} {depth : Nat} {k : String} {v : Value} {es : Table}
    (before : Table) (hall : ∀ e ∈ (k, v) :: es, Answered style depth e.2)
    (hdigits : Value.entriesObstacle? ((k, v) :: es) = some .digits) {closing : Text}
    (hends : EndsNumber closing) (fuel : Nat)
    (hfuel : 2 * ((write style depth v).length + (writeEntries style depth es).length) < fuel) :
    Overflows (readEntries fuel before (writeText style.ascii k ++
      (':' :: ' ' :: (write style depth v ++ (writeEntries style depth es ++ closing))))) := by
  induction es generalizing k v before fuel with
  | nil =>
    obtain ⟨fuel, rfl⟩ : ∃ n, fuel = n + 1 := ⟨fuel - 1, by omega⟩
    have hv : Answered style depth v := hall (k, v) List.mem_cons_self
    rw [Value.entriesObstacle?, Value.entriesObstacle?, Option.or_none] at hdigits
    exact readEntries_entry_overflows hv hends (by omega) (Or.inl hdigits)
  | cons e es ih =>
    obtain ⟨l, w⟩ := e
    obtain ⟨fuel, rfl⟩ : ∃ n, fuel = n + 1 := ⟨fuel - 1, by omega⟩
    obtain ⟨hv, hrest⟩ := List.forall_mem_cons.mp hall
    dsimp only at hv
    obtain ⟨gap, hcomma, hgap⟩ := comma_eq style depth
    refine readEntries_entry_overflows hv
      (endsNumber_writeEntries style depth ((l, w) :: es) hends) (by omega) ?_
    rw [Value.entriesObstacle?] at hdigits
    cases hobstacle : v.obstacle? with
    | some obstacle =>
      rw [hobstacle, Option.some_or] at hdigits
      exact Or.inl hdigits
    | none =>
      rw [hobstacle, Option.none_or] at hdigits
      rw [writeEntries, hcomma] at hfuel
      simp only [List.length_append, List.length_cons, List.length_nil] at hfuel
      have hlater := ih (before.put k v) hrest hdigits fuel (by omega)
      refine Or.inr ⟨rfl, gap ++ (writeText style.ascii l ++ (':' :: ' ' ::
        (write style depth w ++ (writeEntries style depth es ++ closing)))), ?_, ?_⟩
      · simp only [writeEntries, hcomma, List.cons_append, List.append_assoc, List.nil_append]
        exact skip_cons rfl _
      · rw [skip_append hgap]
        exact hlater

theorem refused_list {style : Style} {depth : Nat} {items : List Value}
    (hall : ∀ v ∈ items, Answered style (depth + 1) v)
    (hdigits : Value.itemsObstacle? items = some .digits) :
    Refused style depth (.list items) := by
  cases items with
  | nil => cases hdigits
  | cons v vs =>
    have hv := hall v List.mem_cons_self
    intro fuel rest hfuel _
    obtain ⟨c, text, heq, -, hc⟩ := hv.starts
    have hwrite : write style depth (.list (v :: vs)) ++ rest =
        '[' :: (style.break (depth + 1) ++ (write style (depth + 1) v ++
          (writeItems style (depth + 1) vs ++ (style.break depth ++ ']' :: rest)))) := by
      rw [write]
      simp
    have hlength := congrArg List.length hwrite
    simp only [List.length_append, List.length_cons] at hlength
    obtain ⟨fuel, rfl⟩ : ∃ n, fuel = n + 1 := ⟨fuel - 1, by omega⟩
    have hends : EndsNumber (style.break depth ++ ']' :: rest) :=
      endsNumber_break style depth (by decide) rest
    have hitems := readItems_overflows hall hdigits hends fuel (by omega)
    have hopen := hv.skip (style.break (depth + 1)) (fun _ => white_of_mem_break)
      (writeItems style (depth + 1) vs ++ (style.break depth ++ ']' :: rest))
    rw [hwrite, readValue, hopen]
    rw [heq, List.cons_append] at hitems ⊢
    split
    · rename_i hbracket
      cases hbracket
      exact absurd rfl hc
    · exact hitems.map _

theorem refused_table {style : Style} {depth : Nat} {entries : Table}
    (hall : ∀ e ∈ entries, Answered style (depth + 1) e.2)
    (hdigits : Value.entriesObstacle? entries = some .digits) :
    Refused style depth (.table entries) := by
  cases entries with
  | nil => cases hdigits
  | cons e es =>
    obtain ⟨k, v⟩ := e
    intro fuel rest hfuel _
    have hwrite : write style depth (.table ((k, v) :: es)) ++ rest =
        '\x7b' :: (style.break (depth + 1) ++ (writeText style.ascii k ++ (':' :: ' ' ::
          (write style (depth + 1) v ++ (writeEntries style (depth + 1) es ++
            (style.break depth ++ '\x7d' :: rest)))))) := by
      rw [write]
      simp
    have hlength := congrArg List.length hwrite
    simp only [List.length_append, List.length_cons] at hlength
    obtain ⟨fuel, rfl⟩ : ∃ n, fuel = n + 1 := ⟨fuel - 1, by omega⟩
    have hends : EndsNumber (style.break depth ++ '\x7d' :: rest) :=
      endsNumber_break style depth (by decide) rest
    have hentries := readEntries_overflows [] hall hdigits hends fuel (by omega)
    obtain ⟨body, hbody, -⟩ := readText_writeText style.ascii k (':' :: ' ' ::
      (write style (depth + 1) v ++ (writeEntries style (depth + 1) es ++
        (style.break depth ++ '\x7d' :: rest))))
    rw [hwrite, readValue, skip_append fun _ => white_of_mem_break]
    rw [hbody] at hentries ⊢
    rw [skip_cons rfl]
    exact hentries.map _

/-! ## Values -/

theorem answered_of_refused {style : Style} {depth : Nat} {v : Value} (hkeyed : v.Keyed)
    (hw : v.Whole) (h : v.obstacle? = some .digits → Refused style depth v) :
    Answered style depth v :=
  ⟨write_starts hw style depth, fun hnone =>
    readBack_of_readable (Value.readable_of_obstacle? hkeyed hnone) hw style depth, h⟩

/-- **Values that JSON refuses.** Where the first obstacle of a value is an integer of too many
digits, what is written for it is refused at such an integer. -/
theorem refused_of_digits {v : Value} (hkeyed : v.Keyed) (hw : v.Whole)
    (h : v.obstacle? = some .digits) (style : Style) (depth : Nat) : Refused style depth v := by
  -- parts stand one level deeper, so the depth is left open
  induction hkeyed generalizing depth with
  | null | bool | float | text | moment => cases h
  | int n =>
    intro fuel rest hfuel hr
    obtain ⟨c, text, heq, hc⟩ := Numeral.exists_toString_eq_cons n
    have hlong : Numeral.tooManyDigits n = true := by
      rw [Value.obstacle?] at h
      cases hn : Numeral.tooManyDigits n with
      | true => rfl
      | false =>
        rw [hn] at h
        cases h
    rw [write, heq, List.length_cons] at hfuel
    obtain ⟨fuel, rfl⟩ : ∃ n, fuel = n + 1 := ⟨fuel - 1, by omega⟩
    rw [write, heq, List.cons_append, readValue_of_number hc, ← List.cons_append, ← heq,
      readNumber_toString n hr]
    exact overflows_readDigits hlong rest n
  | list each ih =>
    rw [Value.obstacle?] at h
    cases hw with
    | list whole =>
      exact refused_list (fun v hv => answered_of_refused (each v hv) (whole v hv) fun hdigits =>
        ih v hv (whole v hv) hdigits (depth + 1)) h
  | table once each ih =>
    rw [Value.obstacle?] at h
    cases hw with
    | table whole =>
      exact refused_table (fun e he => answered_of_refused (each e he) (whole e he) fun hdigits =>
        ih e he (whole e he) hdigits (depth + 1)) h

/-- **A text that JSON refuses**, also with blanks behind it. -/
theorem parse_write_tooLong {v : Value} (hkeyed : v.Keyed) (hw : v.Whole)
    (h : v.obstacle? = some .digits) (style : Style) (depth : Nat) {tail : Text}
    (htail : ∀ c ∈ tail, white c = true) :
    ∃ digits, Numeral.digitLimit < digits ∧
      parse (write style depth v ++ tail) = .error (.tooLong digits) := by
  have hlength : 2 * (write style depth v).length ≤ 2 * (write style depth v ++ tail).length + 2 := by
    rw [List.length_append]
    omega
  obtain ⟨digits, hlong, hread⟩ := refused_of_digits hkeyed hw h style depth _ tail hlength
    (endsNumber_of_white htail)
  have hstart := skip_gap (write_starts hw style depth) [] (by simp) tail
  have hmark : (write style depth v ++ tail).head? ≠ some '\uFEFF' :=
    head_ne_mark (by rw [hread]; simp)
  rw [List.nil_append] at hstart
  refine ⟨digits, hlong, ?_⟩
  rw [parse, readWhole, if_neg hmark, hstart, hread]
  rfl

end TidyImports.Json
