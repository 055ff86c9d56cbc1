import TidyImports.Proofs.Data.Json.Readable
import TidyImports.Proofs.Data.Json.Text

/-!
# Values written as JSON and read back

A value of the form that reading gives, and whose numbers are integers, is read back from what is
written for it, in every style. The proof follows the writer: a scalar, a text, the items of a list
and the entries of a table are each read up to where the text for them ends.

* `readBack_of_readable` — a written value is read back, whatever follows it;
* `parse_write` — so is a whole text, also with blanks behind it.
-/

namespace TidyImports

/-- Every number is an integer. -/
inductive Value.Whole : Value → Prop
  | null : Whole .null
  | bool (b : Bool) : Whole (.bool b)
  | int (n : Int) : Whole (.int n)
  | text (s : String) : Whole (.text s)
  | moment (m : Moment) : Whole (.moment m)
  | list {items : List Value} (each : ∀ v ∈ items, Whole v) : Whole (.list items)
  | table {entries : Table} (each : ∀ e ∈ entries, Whole e.2) : Whole (.table entries)

theorem Value.Whole.put {t : Table} (h : (Value.table t).Whole) (key : String) {v : Value}
    (hv : v.Whole) : (Value.table (t.put key v)).Whole := by
  cases h with
  | table each =>
    refine .table fun e he => ?_
    rcases Table.mem_put he with he | he
    · exact each e he
    · rw [he]
      exact hv

namespace Json

/-! ## White space -/

theorem skip_append {gap : Text} (h : ∀ c ∈ gap, white c = true) (text : Text) :
    skip (gap ++ text) = skip text := by
  rw [skip, List.dropWhile_append_of_pos h]
  rfl

theorem skip_cons {c : Char} (h : white c = false) (text : Text) :
    skip (c :: text) = c :: text := by
  simp [skip, h]

theorem white_of_mem_break {style : Style} {depth : Nat} {c : Char} (h : c ∈ style.break depth) :
    white c = true := by
  unfold Style.break at h
  split at h
  · cases h
  · rcases List.mem_cons.mp h with rfl | h
    · rfl
    · rw [List.eq_of_mem_replicate h]
      rfl

theorem comma_eq (style : Style) (depth : Nat) :
    ∃ gap, style.comma depth = ',' :: gap ∧ ∀ c ∈ gap, white c = true := by
  unfold Style.comma
  split
  · exact ⟨[' '], rfl, List.forall_mem_singleton.mpr rfl⟩
  · exact ⟨style.break depth, rfl, fun _ => white_of_mem_break⟩

/-! ## Numbers and literals -/

/-- No number goes on with this text. -/
def EndsNumber (rest : Text) : Prop :=
  ∀ c ∈ rest.head?, c.isDigit = false ∧ c ≠ '.' ∧ c ≠ 'e' ∧ c ≠ 'E'

theorem endsNumber_nil : EndsNumber [] := by simp [EndsNumber]

theorem endsNumber_cons {c : Char} (h : c.isDigit = false ∧ c ≠ '.' ∧ c ≠ 'e' ∧ c ≠ 'E')
    (rest : Text) : EndsNumber (c :: rest) := by
  simpa [EndsNumber] using h

theorem endsNumber_of_white {tail : Text} (h : ∀ c ∈ tail, white c = true) : EndsNumber tail := by
  cases tail with
  | nil => exact endsNumber_nil
  | cons d tail =>
    have hd := h d List.mem_cons_self
    refine endsNumber_cons ?_ tail
    simp only [white, Bool.or_eq_true, decide_eq_true_eq] at hd
    rcases hd with ((rfl | rfl) | rfl) | rfl <;> decide

theorem endsNumber_break (style : Style) (depth : Nat) {c : Char}
    (h : c.isDigit = false ∧ c ≠ '.' ∧ c ≠ 'e' ∧ c ≠ 'E') (rest : Text) :
    EndsNumber (style.break depth ++ c :: rest) := by
  unfold Style.break
  split
  · exact endsNumber_cons h rest
  · exact endsNumber_cons (by decide) _

theorem span_isDigit (ds : Text) {rest : Text} (h : ∀ c ∈ ds, c.isDigit = true)
    (hr : EndsNumber rest) :
    (ds ++ rest).span Char.isDigit = (ds, rest) := by
  rw [List.span_eq_takeWhile_dropWhile, List.takeWhile_append_of_pos h,
    List.dropWhile_append_of_pos h]
  cases rest with
  | nil => simp
  | cons c rest => simp [(hr c rfl).1]

theorem wholeDigits_toDigits (n : Nat) {rest : Text} (hr : EndsNumber rest) :
    wholeDigits (Nat.toDigits 10 n ++ rest) = some (Nat.toDigits 10 n, rest) := by
  by_cases hn : n = 0
  · subst hn
    rfl
  · cases hd : Nat.toDigits 10 n with
    | nil => exact absurd hd Nat.toDigits_ne_nil
    | cons c ds =>
      have hc : c ≠ '0' := Numeral.head_toDigits_ne_zero hn hd
      have hspan := span_isDigit (c :: ds)
        (fun d hm => Numeral.isDigit_of_mem_toDigits (n := n) (by rw [hd]; exact hm)) hr
      rw [List.cons_append] at hspan ⊢
      unfold wholeDigits
      split
      · rename_i heq
        cases heq
        exact absurd rfl hc
      · rw [hspan]

theorem fraction_of_ends {rest : Text} (hr : EndsNumber rest) : fraction rest = ([], rest) := by
  unfold fraction
  split
  · exact absurd rfl (hr '.' rfl).2.1
  · rfl

theorem exponent_of_ends {rest : Text} (hr : EndsNumber rest) : exponent rest = (none, rest) := by
  unfold exponent
  split
  · rename_i c rest
    obtain ⟨-, -, he, hE⟩ := hr c rfl
    rw [if_neg (by simp [he, hE])]
  · rfl

/-- What comes of the digits of an integer. -/
def readDigits (whole rest : Text) (n : Int) : Except Refusal (Value × Text) :=
  if Numeral.digitLimit < whole.length then .error (.tooLong whole.length) else .ok (.int n, rest)

theorem readNumber_unsigned {c : Char} (hc : c ≠ '-') {text whole rest : Text}
    (hwhole : wholeDigits (c :: text) = some (whole, rest)) (hr : EndsNumber rest) :
    readNumber (c :: text) = readDigits whole rest (Numeral.value whole) := by
  rw [readNumber.eq_def]
  split
  rename_i negative body hsign
  split at hsign
  · rename_i heq
    cases heq
    exact absurd rfl hc
  · cases hsign
    simp only [hwhole, fraction_of_ends hr, exponent_of_ends hr]
    rfl

theorem readNumber_minus {text whole rest : Text} (hwhole : wholeDigits text = some (whole, rest))
    (hr : EndsNumber rest) :
    readNumber ('-' :: text) = readDigits whole rest (-(Numeral.value whole : Int)) := by
  simp only [readNumber, hwhole, fraction_of_ends hr, exponent_of_ends hr]
  rfl

/-- An integer that was written is read back, or refused for its length. -/
theorem readNumber_toString (n : Int) {rest : Text} (hr : EndsNumber rest) :
    readNumber ((toString n).toList ++ rest) = readDigits (Nat.toDigits 10 n.natAbs) rest n := by
  have hwhole := wholeDigits_toDigits n.natAbs hr
  rw [Numeral.toList_toString]
  split
  · rename_i hn
    cases hd : Nat.toDigits 10 n.natAbs with
    | nil => exact absurd hd Nat.toDigits_ne_nil
    | cons c ds =>
      have hc : c ≠ '-' := by
        rintro rfl
        have hdigit := Numeral.isDigit_of_mem_toDigits (n := n.natAbs) (c := '-') (by simp [hd])
        exact absurd hdigit (by decide)
      have hsame : c :: (ds ++ rest) = Nat.toDigits 10 n.natAbs ++ rest := by
        rw [hd, List.cons_append]
      rw [← hsame] at hwhole
      rw [List.cons_append, readNumber_unsigned hc hwhole hr, Numeral.value_toDigits,
        Int.natAbs_of_nonneg hn, hd]
  · rename_i hn
    have hneg : (n.natAbs : Int) = -n := Int.ofNat_natAbs_of_nonpos (Int.le_of_not_le hn)
    rw [List.cons_append, readNumber_minus hwhole hr, Numeral.value_toDigits, hneg, Int.neg_neg]

theorem ne_of_number {c d : Char} (h : c.isDigit = true ∨ c = '-')
    (hd : d.isDigit = false ∧ d ≠ '-') : c ≠ d := by
  rintro rfl
  rcases h with h | h
  · rw [hd.1] at h
    cases h
  · exact hd.2 h

theorem white_of_number {c : Char} (h : c.isDigit = true ∨ c = '-') : white c = false := by
  simp [white, ne_of_number h (d := ' ') (by decide), ne_of_number h (d := '\t') (by decide),
    ne_of_number h (d := '\n') (by decide), ne_of_number h (d := '\r') (by decide)]

theorem readScalar_of_number {c : Char} (h : c.isDigit = true ∨ c = '-') (text : Text) :
    readScalar (c :: text) = readNumber (c :: text) := by
  have hn := ne_of_number h (d := 'n') (by decide)
  have ht := ne_of_number h (d := 't') (by decide)
  have hf := ne_of_number h (d := 'f') (by decide)
  have hN := ne_of_number h (d := 'N') (by decide)
  simp [readScalar, words, Text.dropStart?, hn.symm, ht.symm, hf.symm, hN.symm]

theorem readValue_of_number {c : Char} (h : c.isDigit = true ∨ c = '-') (fuel : Nat) (text : Text) :
    readValue (fuel + 1) (c :: text) = readNumber (c :: text) := by
  have hquote := ne_of_number h (d := '"') (by decide)
  have hlist := ne_of_number h (d := '[') (by decide)
  have htable := ne_of_number h (d := '\x7b') (by decide)
  rw [readValue, readScalar_of_number h]
  · intro rest heq
    cases heq
    exact hquote rfl
  · intro rest heq
    cases heq
    exact hlist rfl
  · intro rest heq
    cases heq
    exact htable rfl

/-! ## Values -/

theorem skip_gap {text : Text} (h : ∃ c rest, text = c :: rest ∧ white c = false ∧ c ≠ ']')
    (gap : Text) (hgap : ∀ c ∈ gap, white c = true) (after : Text) :
    skip (gap ++ (text ++ after)) = text ++ after := by
  obtain ⟨c, rest, rfl, hc, -⟩ := h
  rw [skip_append hgap, List.cons_append, skip_cons hc]

/-- What is written for the value is read back wherever enough fuel is left for it, and is found
behind blanks. -/
structure ReadBack (style : Style) (depth : Nat) (v : Value) : Prop where
  starts : ∃ c text, write style depth v = c :: text ∧ white c = false ∧ c ≠ ']'
  reads : ∀ fuel rest, 2 * (write style depth v).length ≤ fuel → EndsNumber rest →
    readValue fuel (write style depth v ++ rest) = .ok (v, rest)

theorem ReadBack.skip {style : Style} {depth : Nat} {v : Value} (h : ReadBack style depth v)
    (gap : Text) (hgap : ∀ c ∈ gap, white c = true) (rest : Text) :
    Json.skip (gap ++ (write style depth v ++ rest)) = write style depth v ++ rest :=
  skip_gap h.starts gap hgap rest

theorem endsNumber_writeItems (style : Style) (depth : Nat) (vs : List Value) {rest : Text}
    (hr : EndsNumber rest) : EndsNumber (writeItems style depth vs ++ rest) := by
  cases vs with
  | nil => exact hr
  | cons v vs =>
    obtain ⟨gap, hcomma, -⟩ := comma_eq style depth
    rw [writeItems, hcomma]
    exact endsNumber_cons (by decide) _

theorem endsNumber_writeEntries (style : Style) (depth : Nat) (es : Table) {rest : Text}
    (hr : EndsNumber rest) : EndsNumber (writeEntries style depth es ++ rest) := by
  cases es with
  | nil => exact hr
  | cons e es =>
    obtain ⟨gap, hcomma, -⟩ := comma_eq style depth
    rw [writeEntries, hcomma]
    exact endsNumber_cons (by decide) _

/-- `closing` is the end of the list, with the blanks in front of it. -/
theorem readItems_write {style : Style} {depth : Nat} {v : Value} {vs : List Value}
    (hback : ∀ w ∈ v :: vs, ReadBack style depth w) {closing rest : Text}
    (hskip : skip closing = ']' :: rest) (hends : EndsNumber closing) (fuel : Nat)
    (hfuel : 2 * ((write style depth v).length + (writeItems style depth vs).length) < fuel) :
    readItems fuel (write style depth v ++ (writeItems style depth vs ++ closing)) =
      .ok (v :: vs, rest) := by
  obtain ⟨fuel, rfl⟩ : ∃ n, fuel = n + 1 := ⟨fuel - 1, by omega⟩
  have hread := (hback v List.mem_cons_self).reads fuel _ (by omega)
    (endsNumber_writeItems style depth vs hends)
  induction vs generalizing v fuel with
  | nil =>
    rw [readItems, hread]
    simp only [writeItems, List.nil_append, bind, Except.bind]
    rw [hskip]
    rfl
  | cons w ws ih =>
    obtain ⟨gap, hcomma, hgap⟩ := comma_eq style depth
    have hw : ReadBack style depth w := hback w (by simp)
    rw [writeItems, hcomma] at hfuel
    simp only [List.length_append, List.length_cons] at hfuel
    obtain ⟨fuel, rfl⟩ : ∃ n, fuel = n + 1 := ⟨fuel - 1, by omega⟩
    have hrest := ih (fun x hx => hback x (List.mem_cons_of_mem v hx)) fuel (by omega)
      (hw.reads fuel _ (by omega) (endsNumber_writeItems style depth ws hends))
    rw [← hw.skip gap hgap] at hrest
    rw [readItems, hread, writeItems, hcomma]
    simp only [bind, Except.bind, List.cons_append, List.append_assoc]
    rw [skip_cons (by rfl)]
    simp [hrest, pure, Except.pure]

/-- One entry is read and put behind those before it; `after` decides how the table goes on. -/
theorem readEntries_entry {style : Style} {depth : Nat} {k : String} {v : Value} {before : Table}
    (hback : ReadBack style depth v) (hk : k ∉ before.keys) {after : Text}
    (hends : EndsNumber after) {fuel : Nat} (hfuel : 2 * (write style depth v).length ≤ fuel)
    {result : Table × Text}
    (hclose : (∃ rest, skip after = '\x7d' :: rest ∧ result = (before ++ [(k, v)], rest)) ∨
      ∃ rest, skip after = ',' :: rest ∧
        readEntries fuel (before ++ [(k, v)]) (skip rest) = .ok result) :
    readEntries (fuel + 1) before (writeText style.ascii k ++
      (':' :: ' ' :: (write style depth v ++ after))) = .ok result := by
  obtain ⟨body, hbody, hkey⟩ := readText_writeText style.ascii k
    (':' :: ' ' :: (write style depth v ++ after))
  have hread := hback.reads fuel after hfuel hends
  have hgap := hback.skip [' '] (List.forall_mem_singleton.mpr rfl) after
  rw [List.singleton_append] at hgap
  rw [hbody, readEntries, hkey]
  simp only [bind, Except.bind]
  rw [skip_cons (by rfl)]
  simp only [hgap, hread, Table.put_of_notMem v hk]
  rcases hclose with ⟨rest, hskip, rfl⟩ | ⟨rest, hskip, hrest⟩
  · simp [hskip, pure, Except.pure]
  · simp [hskip, hrest]

theorem readEntries_write {style : Style} {depth : Nat} {k : String} {v : Value} {es : Table}
    (before : Table) (hback : ∀ e ∈ (k, v) :: es, ReadBack style depth e.2)
    (honce : (Table.keys (before ++ (k, v) :: es)).Nodup) {closing rest : Text}
    (hskip : skip closing = '\x7d' :: rest) (hends : EndsNumber closing) (fuel : Nat)
    (hfuel : 2 * ((write style depth v).length + (writeEntries style depth es).length) < fuel) :
    readEntries fuel before (writeText style.ascii k ++
      (':' :: ' ' :: (write style depth v ++ (writeEntries style depth es ++ closing)))) =
      .ok (before ++ (k, v) :: es, rest) := by
  obtain ⟨fuel, rfl⟩ : ∃ n, fuel = n + 1 := ⟨fuel - 1, by omega⟩
  have hv : ReadBack style depth v := hback (k, v) List.mem_cons_self
  have hk : k ∉ before.keys := Table.notMem_keys_of_nodup honce
  induction es generalizing k v before fuel with
  | nil =>
    exact readEntries_entry hv hk hends (by omega) (Or.inl ⟨rest, hskip, rfl⟩)
  | cons e es ih =>
    obtain ⟨l, w⟩ := e
    obtain ⟨gap, hcomma, hgap⟩ := comma_eq style depth
    rw [writeEntries, hcomma] at hfuel
    simp only [List.length_append, List.length_cons, List.length_nil] at hfuel
    obtain ⟨fuel, rfl⟩ : ∃ n, fuel = n + 1 := ⟨fuel - 1, by omega⟩
    have honce' : (Table.keys ((before ++ [(k, v)]) ++ (l, w) :: es)).Nodup := by simpa using honce
    have hrest := ih (before ++ [(k, v)]) (fun x hx => hback x (List.mem_cons_of_mem (k, v) hx))
      honce' fuel (by omega) (hback (l, w) (by simp)) (Table.notMem_keys_of_nodup honce')
    rw [List.append_assoc, List.singleton_append] at hrest
    refine readEntries_entry hv hk (endsNumber_writeEntries style depth ((l, w) :: es) hends)
      (by omega) (Or.inr ⟨gap ++ (writeText style.ascii l ++ (':' :: ' ' ::
        (write style depth w ++ (writeEntries style depth es ++ closing)))), ?_, ?_⟩)
    · simp only [writeEntries, hcomma, List.cons_append, List.append_assoc, List.nil_append]
      exact skip_cons rfl _
    · rw [skip_append hgap, ← hrest]
      congr 1

theorem readBack_of_pos {style : Style} {depth : Nat} {v : Value} {c : Char} (text : Text)
    (hwrite : write style depth v = c :: text) (hc : white c = false ∧ c ≠ ']')
    (hread : ∀ fuel rest, 2 * text.length ≤ fuel → EndsNumber rest →
      readValue (fuel + 1) (c :: (text ++ rest)) = .ok (v, rest)) : ReadBack style depth v := by
  refine ⟨⟨c, text, hwrite, hc⟩, ?_⟩
  intro fuel rest hfuel hr
  rw [hwrite, List.length_cons] at hfuel
  obtain ⟨fuel, rfl⟩ : ∃ n, fuel = n + 1 := ⟨fuel - 1, by omega⟩
  rw [hwrite, List.cons_append]
  exact hread fuel rest (by omega) hr

theorem readBack_list {style : Style} {depth : Nat} {items : List Value}
    (hback : ∀ v ∈ items, ReadBack style (depth + 1) v) : ReadBack style depth (.list items) := by
  cases items with
  | nil => exact readBack_of_pos [']'] rfl (by decide) fun _ _ _ _ => rfl
  | cons v vs =>
    have hv : ReadBack style (depth + 1) v := hback v List.mem_cons_self
    obtain ⟨c, text, heq, -, hc⟩ := hv.starts
    refine readBack_of_pos (style.break (depth + 1) ++ write style (depth + 1) v ++
      writeItems style (depth + 1) vs ++ style.break depth ++ [']']) rfl (by decide) ?_
    intro fuel rest hfuel _
    have hclose : skip (style.break depth ++ ']' :: rest) = ']' :: rest := by
      rw [skip_append fun _ => white_of_mem_break, skip_cons rfl]
    have hopen := hv.skip (style.break (depth + 1)) (fun _ => white_of_mem_break)
      (writeItems style (depth + 1) vs ++ (style.break depth ++ ']' :: rest))
    simp only [List.length_append, List.length_cons, List.length_nil] at hfuel
    have hitems := readItems_write hback hclose (endsNumber_break style depth (by decide) rest)
      fuel (by omega)
    simp only [List.append_assoc, List.singleton_append]
    rw [readValue, hopen]
    rw [heq, List.cons_append] at hitems ⊢
    split
    · rename_i hbracket
      cases hbracket
      exact absurd rfl hc
    · rw [hitems]
      rfl

theorem readBack_table {style : Style} {depth : Nat} {entries : Table}
    (honce : entries.keys.Nodup) (hback : ∀ e ∈ entries, ReadBack style (depth + 1) e.2) :
    ReadBack style depth (.table entries) := by
  cases entries with
  | nil => exact readBack_of_pos ['\x7d'] rfl (by decide) fun _ _ _ _ => rfl
  | cons e es =>
    obtain ⟨k, v⟩ := e
    refine readBack_of_pos (style.break (depth + 1) ++ writeText style.ascii k ++
      [':', ' '] ++ write style (depth + 1) v ++ writeEntries style (depth + 1) es ++
      style.break depth ++ ['\x7d']) rfl (by decide) ?_
    intro fuel rest hfuel _
    have hclose : skip (style.break depth ++ '\x7d' :: rest) = '\x7d' :: rest := by
      rw [skip_append fun _ => white_of_mem_break, skip_cons rfl]
    simp only [List.length_append, List.length_cons, List.length_nil] at hfuel
    have hentries := readEntries_write [] hback honce hclose
      (endsNumber_break style depth (by decide) rest) fuel (by omega)
    simp only [List.append_assoc, List.cons_append, List.nil_append] at hentries ⊢
    rw [readValue, skip_append fun _ => white_of_mem_break]
    obtain ⟨body, hbody, -⟩ := readText_writeText style.ascii k (':' :: ' ' ::
      (write style (depth + 1) v ++ (writeEntries style (depth + 1) es ++
        (style.break depth ++ '\x7d' :: rest))))
    rw [hbody] at hentries ⊢
    rw [skip_cons rfl]
    simp [hentries, Except.map]

/-- **Values in JSON.** A value of the form that reading gives and whose numbers are integers is
read back from what is written for it. -/
theorem readBack_of_readable {v : Value} (hv : v.Readable) (hw : v.Whole) (style : Style)
    (depth : Nat) : ReadBack style depth v := by
  induction hv generalizing depth with
  | null => exact readBack_of_pos "ull".toList rfl (by decide) fun _ _ _ _ => rfl
  | bool b => cases b with
    | false => exact readBack_of_pos "alse".toList rfl (by decide) fun _ _ _ _ => rfl
    | true => exact readBack_of_pos "rue".toList rfl (by decide) fun _ _ _ _ => rfl
  | @int n short =>
    obtain ⟨c, text, heq, hc⟩ := Numeral.exists_toString_eq_cons n
    refine readBack_of_pos text heq
      ⟨white_of_number hc, ne_of_number hc (by decide)⟩ ?_
    intro fuel rest _ hr
    rw [readValue_of_number hc, ← List.cons_append, ← heq, readNumber_toString n hr, readDigits,
      if_neg (Nat.not_lt.mpr ((Numeral.length_toDigits_le_iff n).mpr short))]
  | float x => cases hw
  | text s =>
    refine readBack_of_pos (s.toList.flatMap (writeChar style.ascii) ++ ['"']) rfl
      (by decide) ?_
    intro fuel rest _ _
    obtain ⟨body, hbody, hread⟩ := readText_writeText style.ascii s rest
    obtain rfl : s.toList.flatMap (writeChar style.ascii) ++ ['"'] ++ rest = body :=
      (List.cons.inj hbody).2
    rw [readValue, hread]
    rfl
  | @list items each ih =>
    have hback : ∀ v ∈ items, ReadBack style (depth + 1) v := by
      cases hw with
      | list whole => exact fun v hv => ih v hv (whole v hv) (depth + 1)
    exact readBack_list hback
  | @table entries once each ih =>
    have hback : ∀ e ∈ entries, ReadBack style (depth + 1) e.2 := by
      cases hw with
      | table whole => exact fun e he => ih e he (whole e he) (depth + 1)
    exact readBack_table once hback

theorem head_ne_mark {fuel : Nat} {text : Text}
    (h : readValue (fuel + 1) text ≠ .error (.malformed .value text)) :
    text.head? ≠ some '\uFEFF' := by
  intro hmark
  obtain ⟨after, rfl⟩ := List.head?_eq_some_iff.mp hmark
  exact h rfl

/-- **JSON there and back.** A value of the form that reading gives and whose numbers are integers
is read from the text written for it, also with blanks behind it. -/
theorem parse_write {v : Value} (hv : v.Readable) (hw : v.Whole) (style : Style) (depth : Nat)
    {tail : Text} (htail : ∀ c ∈ tail, white c = true) :
    parse (write style depth v ++ tail) = .ok v := by
  have hback := readBack_of_readable hv hw style depth
  have hread := hback.reads (2 * (write style depth v ++ tail).length + 2) tail
    (by rw [List.length_append]; omega) (endsNumber_of_white htail)
  have hstart := hback.skip [] (by simp) tail
  have hstop : skip tail = [] := List.dropWhile_eq_nil_iff.mpr htail
  have hmark : (write style depth v ++ tail).head? ≠ some '\uFEFF' :=
    head_ne_mark (by rw [hread]; simp)
  rw [List.nil_append] at hstart
  rw [parse, readWhole, if_neg hmark, hstart, hread]
  simp [bind, Except.bind, hstop, pure, Except.pure, Except.mapError]

end Json
end TidyImports
