import TidyImports.Data.Toml.Reader
import TidyImports.Proofs.Data.Json.Text

/-!
# JSON texts read as TOML

A text that was written as ASCII JSON is a basic text of TOML as long as its characters are those of
the basic plane. A character beyond it is written as a pair of escapes, and neither half of a pair
is a character to TOML.

* `readBasic_writeChar`, `readBasic_writeChar_beyond` — one character;
* `readText_writeText` — a text is read back, or refused;
* `readItems_writeItems`, `readValue_writeList` — so is a list of texts, with its first bad one;
* `printable_write` — such a list is written in printable ASCII.
-/

namespace TidyImports.Toml

open Json (writeChar writeText unitEscape charEscape)

/-! ## Characters -/

/-- Every character has one number of four hexadecimal digits. -/
def InBasicPlane (text : Text) : Prop := ∀ c ∈ text, c.toNat < 0x10000

instance (text : Text) : Decidable (InBasicPlane text) :=
  List.decidableBAll (fun c : Char => c.toNat < 0x10000) text

theorem inBasicPlane_cons {c : Char} {text : Text} :
    InBasicPlane (c :: text) ↔ c.toNat < 0x10000 ∧ InBasicPlane text := List.forall_mem_cons

theorem scalarChar?_hex {n : Nat} (h : n < 0x10000) :
    scalarChar? (Text.hex 4 n) = if n < 0xD800 ∨ 0xE000 ≤ n then some (Char.ofNat n) else none := by
  have hvalue := Json.hexValue?_hex h
  unfold Json.hexValue? at hvalue
  rw [scalarChar?, hvalue]
  have hsame : n < 0xD800 ∨ 0xE000 ≤ n ∧ n < 0x110000 ↔ n < 0xD800 ∨ 0xE000 ≤ n := by omega
  simp only [hsame]

theorem readBasic_unitEscape {n : Nat} (h : n < 0x10000) (after : Text) :
    readBasic false none (unitEscape n ++ after) =
      if n < 0xD800 ∨ 0xE000 ≤ n then
        (readBasic false none after).map fun (s, r) => (Char.ofNat n :: s, r)
      else .error .malformed := by
  have hchar := scalarChar?_hex h
  rw [Json.hex_four] at hchar
  rw [unitEscape, Json.hex_four]
  simp only [List.cons_append, List.nil_append]
  rw [readBasic.eq_def]
  by_cases hn : n < 0xD800 ∨ 0xE000 ≤ n
  · simp [hchar, hn]
  · simp [hchar, hn]

theorem readBasic_short {e d : Char} (hu : e ≠ 'u') (hU : e ≠ 'U') (hd : simpleEscape? e = some d)
    (after : Text) : readBasic false none ('\\' :: e :: after) =
      (readBasic false none after).map fun (s, r) => (d :: s, r) := by
  rw [readBasic.eq_def]
  simp [hu, hU, hd]

theorem readBasic_plain {c : Char} (hquote : c ≠ '"') (hslash : c ≠ '\\')
    (hcontrol : control c = false) (after : Text) : readBasic false none (c :: after) =
      (readBasic false none after).map fun (s, r) => (c :: s, r) := by
  rw [readBasic.eq_def]
  simp [hquote, hslash, hcontrol]

theorem readBasic_writeChar {c : Char} (h : c.toNat < 0x10000) (after : Text) :
    readBasic false none (writeChar true c ++ after) =
      (readBasic false none after).map fun (s, r) => (c :: s, r) := by
  have hescape : readBasic false none (charEscape c ++ after) =
      (readBasic false none after).map fun (s, r) => (c :: s, r) := by
    have hscalar : c.toNat < 0xD800 ∨ 0xE000 ≤ c.toNat := by
      rcases c.valid with hlow | hhigh
      · exact Or.inl hlow
      · exact Or.inr hhigh.1
    unfold charEscape
    dsimp only
    rw [if_pos h, readBasic_unitEscape h, if_pos hscalar, Char.ofNat_toNat]
  unfold writeChar
  iterate 7
    split
    · rename_i heq
      subst heq
      exact readBasic_short (by decide) (by decide) rfl after
  rename_i hquote hslash _ _ _ _ _
  split
  · exact hescape
  · rename_i hcontrol
    split
    · exact hescape
    · rename_i hdelete
      simp only [Bool.true_and, decide_eq_true_eq] at hdelete
      refine readBasic_plain hquote hslash ?_ after
      simp only [control, Bool.or_eq_false_iff, Bool.and_eq_false_iff, decide_eq_false_iff_not,
        beq_eq_false_iff_ne]
      omega

/-- Half of a pair is no character. -/
theorem readBasic_writeChar_beyond {c : Char} (h : 0x10000 ≤ c.toNat) (after : Text) :
    readBasic false none (writeChar true c ++ after) = .error .malformed := by
  have hlarge := Json.toNat_lt c
  have hwrite : writeChar true c = charEscape c := by
    have hne : ∀ d : Char, d.toNat < 0x10000 → c ≠ d := by
      rintro d hd rfl
      omega
    unfold writeChar
    iterate 7 rw [if_neg (hne _ (by decide))]
    rw [if_neg (by omega), if_pos (by simp only [Bool.true_and, decide_eq_true_eq]; omega)]
  rw [hwrite]
  unfold charEscape
  dsimp only
  rw [if_neg (by omega), List.append_assoc, readBasic_unitEscape (by omega), if_neg (by omega)]

/-! ## Texts -/

theorem readBasic_written (text after : Text) :
    readBasic false none (text.flatMap (writeChar true) ++ '"' :: after) =
      if InBasicPlane text then .ok (text, after) else .error .malformed := by
  induction text with
  | nil =>
    rw [List.flatMap_nil, List.nil_append, readBasic.eq_def]
    simp [InBasicPlane]
  | cons c text ih =>
    rw [List.flatMap_cons, List.append_assoc]
    by_cases hc : c.toNat < 0x10000
    · rw [readBasic_writeChar hc, ih]
      by_cases htext : InBasicPlane text
      · rw [if_pos htext, if_pos (inBasicPlane_cons.mpr ⟨hc, htext⟩)]
        rfl
      · rw [if_neg htext, if_neg fun h => htext (inBasicPlane_cons.mp h).2]
        rfl
    · rw [readBasic_writeChar_beyond (Nat.not_lt.mp hc),
        if_neg fun h => hc (inBasicPlane_cons.mp h).1]

theorem head_writeChar_ne (c : Char) : ∃ d rest, writeChar true c = d :: rest ∧ d ≠ '"' := by
  have hescape : ∃ d rest, charEscape c = d :: rest ∧ d ≠ '"' := by
    unfold charEscape
    dsimp only
    split
    · exact ⟨'\\', _, rfl, by decide⟩
    · exact ⟨'\\', _, rfl, by decide⟩
  unfold writeChar
  iterate 7
    split
    · exact ⟨'\\', _, rfl, by decide⟩
  rename_i hquote _ _ _ _ _ _
  split
  · exact hescape
  · split
    · exact hescape
    · exact ⟨c, [], rfl, hquote⟩

/-- A written text is read back, or refused, unless a quote follows it. -/
theorem readText_writeText (s : String) {after : Text} (hafter : after.head? ≠ some '"') :
    readText (writeText true s ++ after) =
      if InBasicPlane s.toList then .ok (s, after) else .error .malformed := by
  have hbody := readBasic_written s.toList after
  have hwrite : writeText true s ++ after =
      '"' :: (s.toList.flatMap (writeChar true) ++ '"' :: after) := by simp [writeText]
  -- three quotes in a row would begin a text of several lines
  have hthree : ∀ rest, s.toList.flatMap (writeChar true) ++ '"' :: after ≠ '"' :: '"' :: rest := by
    intro rest heq
    cases hs : s.toList with
    | nil =>
      rw [hs, List.flatMap_nil, List.nil_append] at heq
      exact hafter (by rw [(List.cons.inj heq).2]; rfl)
    | cons c text =>
      obtain ⟨d, tail, hd, hne⟩ := head_writeChar_ne c
      rw [hs, List.flatMap_cons, hd] at heq
      exact hne (List.cons.inj heq).1
  rw [hwrite]
  unfold readText
  split
  · rename_i rest heq
    exact absurd (List.cons.inj heq).2 (hthree rest)
  · rename_i rest heq
    rw [← (List.cons.inj heq).2, hbody]
    split
    · simp [Except.map]
    · rfl
  · rename_i heq
    cases heq
  · rename_i heq
    cases heq
  · rename_i hquote _ _
    exact absurd rfl (hquote _)

/-! ## Lists of texts -/

theorem readValue_writeText (fuel : Nat) (s : String) (after : Text)
    (hafter : after.head? ≠ some '"') : readValue (fuel + 1) (writeText true s ++ after) =
      if InBasicPlane s.toList then .ok (.text s, after) else .error .malformed := by
  have hread := readText_writeText s hafter
  rw [writeText, List.cons_append, List.cons_append] at hread ⊢
  rw [readValue, hread]
  split <;> rfl

theorem skipTrivia_of_solid {c : Char} (h : c ≠ '\n' ∧ white c = false ∧ c ≠ '#') (rest : Text) :
    skipTrivia false (c :: rest) = .ok (c :: rest) := by
  rw [skipTrivia]
  simp [h]

theorem skipTrivia_blank (rest : Text) :
    skipTrivia false (' ' :: rest) = skipTrivia false rest := by
  rw [skipTrivia]
  rfl

/-- The text of a list of texts after its first item. -/
theorem readItems_writeItems (depth : Nat) (s : String) (items : List String) (after : Text)
    (fuel : Nat) (hfuel : items.length + 1 < fuel) :
    readItems fuel (writeText true s ++
        (Json.writeItems .inline depth (items.map .text) ++ ']' :: after)) =
      if ∀ t ∈ s :: items, InBasicPlane t.toList then .ok ((s :: items).map .text, after)
      else .error .malformed := by
  induction items generalizing s fuel with
  | nil =>
    obtain ⟨fuel, rfl⟩ : ∃ n, fuel = n + 2 := ⟨fuel - 2, by simp at hfuel; omega⟩
    have hread := readValue_writeText fuel s (']' :: after) (by simp)
    rw [List.map_nil, Json.writeItems, List.nil_append, readItems, hread]
    simp only [List.forall_mem_singleton]
    split
    · simp only [bind, Except.bind]
      rw [skipTrivia_of_solid (by decide)]
      rfl
    · rfl
  | cons t items ih =>
    obtain ⟨fuel, rfl⟩ : ∃ n, fuel = n + 2 := ⟨fuel - 2, by simp at hfuel; omega⟩
    have hrest := ih t (fuel + 1) (by simp at hfuel; omega)
    have hread := readValue_writeText fuel s (',' :: ' ' :: (writeText true t ++
      (Json.writeItems .inline depth (items.map .text) ++ ']' :: after))) (by simp)
    have hlist : Json.writeItems .inline depth ((t :: items).map .text) ++ ']' :: after =
        ',' :: ' ' :: (writeText true t ++
          (Json.writeItems .inline depth (items.map .text) ++ ']' :: after)) := by
      rw [List.map_cons, Json.writeItems, Json.write]
      simp [Json.Style.comma, Json.Style.inline]
    have hquote : writeText true t = '"' :: (t.toList.flatMap (writeChar true) ++ ['"']) := rfl
    rw [hlist, readItems, hread]
    by_cases hs : InBasicPlane s.toList
    · rw [if_pos hs]
      simp only [bind, Except.bind]
      rw [skipTrivia_of_solid (by decide)]
      simp only
      rw [skipTrivia_blank, hquote, List.cons_append, skipTrivia_of_solid (by decide)]
      rw [hquote, List.cons_append] at hrest
      dsimp only
      split
      · rename_i heq
        exact absurd (List.cons.inj heq).1 (by decide)
      · rw [hrest]
        by_cases hall : ∀ u ∈ t :: items, InBasicPlane u.toList
        · have hboth : ∀ u ∈ s :: t :: items, InBasicPlane u.toList :=
            List.forall_mem_cons.mpr ⟨hs, hall⟩
          rw [if_pos hall, if_pos hboth]
          rfl
        · rw [if_neg hall, if_neg fun h => hall (List.forall_mem_cons.mp h).2]
    · rw [if_neg hs, if_neg fun hall => hs (hall s List.mem_cons_self)]
      rfl

theorem readValue_writeList (depth : Nat) (items : List String) (after : Text) (fuel : Nat)
    (hfuel : items.length + 1 < fuel) :
    readValue fuel (Json.write .inline depth (.list (items.map .text)) ++ after) =
      if ∀ s ∈ items, InBasicPlane s.toList then .ok (.list (items.map .text), after)
      else .error .malformed := by
  obtain ⟨fuel, rfl⟩ : ∃ n, fuel = n + 1 := ⟨fuel - 1, by omega⟩
  cases items with
  | nil =>
    simp only [List.map_nil, Json.write, List.cons_append, List.nil_append]
    rw [readValue, skipTrivia_of_solid (by decide)]
    simp [bind, Except.bind, pure, Except.pure]
  | cons s items =>
    have hread := readItems_writeItems (depth + 1) s items after fuel (by simp at hfuel; omega)
    have hlist : Json.write .inline depth (.list ((s :: items).map .text)) ++ after =
        '[' :: (writeText true s ++
          (Json.writeItems .inline (depth + 1) (items.map .text) ++ ']' :: after)) := by
      rw [List.map_cons, Json.write, Json.write]
      simp [Json.Style.break, Json.Style.inline]
    have hquote : writeText true s = '"' :: (s.toList.flatMap (writeChar true) ++ ['"']) := rfl
    rw [hlist, readValue]
    rw [hquote, List.cons_append] at hread ⊢
    rw [skipTrivia_of_solid (by decide)]
    simp only [bind, Except.bind]
    split
    · rename_i heq
      exact absurd (List.cons.inj heq).1 (by decide)
    · rw [hread]
      by_cases hall : ∀ t ∈ s :: items, InBasicPlane t.toList
      · rw [if_pos hall, if_pos hall]
        rfl
      · rw [if_neg hall, if_neg hall]

/-! ## What is written -/

theorem length_le_writeItems (depth : Nat) (items : List Value) :
    items.length ≤ (Json.writeItems .inline depth items).length := by
  induction items with
  | nil => exact Nat.le_refl 0
  | cons v items ih =>
    have hcomma : (Json.Style.inline.comma depth).length = 2 := rfl
    rw [Json.writeItems, List.length_append, List.length_append, List.length_cons, hcomma]
    omega

theorem write_list (depth : Nat) (items : List Value) :
    ∃ text, Json.write .inline depth (.list items) = '[' :: text ∧ items.length ≤ text.length := by
  cases items with
  | nil => exact ⟨_, by rw [Json.write], Nat.zero_le _⟩
  | cons v items =>
    have hitems := length_le_writeItems (depth + 1) items
    refine ⟨_, by rw [Json.write, List.cons_append, List.cons_append, List.cons_append,
      List.cons_append], ?_⟩
    simp only [List.length_append, List.length_cons, List.length_nil]
    omega

def Printable (c : Char) : Prop := 0x20 ≤ c.toNat ∧ c.toNat < 0x7F

instance (c : Char) : Decidable (Printable c) :=
  inferInstanceAs (Decidable (0x20 ≤ c.toNat ∧ c.toNat < 0x7F))

theorem printable_of_all {text : Text} (h : text.all (fun c => decide (Printable c)) = true) :
    ∀ c ∈ text, Printable c := by
  simpa using h

theorem printable_hexDigit : ∀ d < 16, Printable (Text.hexDigit d) := by decide

theorem printable_unitEscape (n : Nat) : ∀ c ∈ unitEscape n, Printable c := by
  have hdigit : ∀ m, Printable (Text.hexDigit (m % 16)) := fun m =>
    printable_hexDigit _ (Nat.mod_lt _ (by decide))
  have hslash : Printable '\\' := by decide
  have hmark : Printable 'u' := by decide
  rw [unitEscape, Json.hex_four]
  simp [hdigit, hslash, hmark]

theorem printable_charEscape (c : Char) : ∀ d ∈ charEscape c, Printable d := by
  unfold charEscape
  dsimp only
  split
  · exact printable_unitEscape _
  · rw [List.forall_mem_append]
    exact ⟨printable_unitEscape _, printable_unitEscape _⟩

theorem printable_writeChar (c : Char) : ∀ d ∈ writeChar true c, Printable d := by
  unfold writeChar
  iterate 7
    split
    · exact printable_of_all (by decide)
  split
  · exact printable_charEscape c
  rename_i hcontrol
  split
  · exact printable_charEscape c
  · rename_i hdelete
    simp only [Bool.true_and, decide_eq_true_eq] at hdelete
    rw [List.forall_mem_singleton]
    exact ⟨by omega, by omega⟩

theorem printable_writeText (s : String) : ∀ c ∈ writeText true s, Printable c := by
  have hquote : Printable '"' := by decide
  have hbody : ∀ d ∈ s.toList.flatMap (writeChar true), Printable d := by
    intro d hd
    obtain ⟨c, -, hc⟩ := List.mem_flatMap.mp hd
    exact printable_writeChar c d hc
  rw [writeText, List.forall_mem_append, List.forall_mem_cons, List.forall_mem_singleton]
  exact ⟨⟨hquote, hbody⟩, hquote⟩

theorem printable_writeItems (depth : Nat) (items : List String) :
    ∀ c ∈ Json.writeItems .inline depth (items.map .text), Printable c := by
  induction items with
  | nil => simp [Json.writeItems]
  | cons s items ih =>
    have hcomma : ∀ c ∈ Json.Style.inline.comma depth, Printable c := by
      rw [show Json.Style.inline.comma depth = [',', ' '] from rfl]
      exact printable_of_all (by decide)
    rw [List.map_cons, Json.writeItems, Json.write]
    simp only [List.forall_mem_append]
    exact ⟨⟨hcomma, printable_writeText s⟩, ih⟩

theorem printable_write (depth : Nat) (items : List String) :
    ∀ c ∈ Json.write .inline depth (.list (items.map .text)), Printable c := by
  cases items with
  | nil =>
    rw [List.map_nil, Json.write]
    exact printable_of_all (by decide)
  | cons s items =>
    have hbreak : ∀ n, Json.Style.inline.break n = [] := fun _ => rfl
    have hopen : Printable '[' := by decide
    have hclose : Printable ']' := by decide
    rw [List.map_cons, Json.write, Json.write]
    simp only [hbreak, List.append_nil, List.forall_mem_append, List.forall_mem_cons]
    exact ⟨⟨⟨⟨hopen, by simp⟩, printable_writeText s⟩, printable_writeItems _ items⟩, hclose, by simp⟩

end TidyImports.Toml
