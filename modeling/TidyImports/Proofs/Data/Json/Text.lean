import TidyImports.Data.Json.Reader
import TidyImports.Data.Json.Writer

/-!
# Texts in JSON

A text is written character by character, each as itself or as an escape, and read back unit by
unit. Between the two stand the units of a character (`units`): one number, or the two halves of a
pair for a character beyond the basic plane that is escaped.

* `readUnits_writeChar` — what was written for a character is read as its units;
* `joinUnits_units` — the units of a character make that character again;
* `readText_writeText` — hence a text that was written is read back.
-/

namespace TidyImports.Json

/-! ## Escapes -/

theorem hexDigit?_hexDigit : ∀ d < 16, Text.hexDigit? (Text.hexDigit d) = some d := by decide

theorem hex_four (n : Nat) :
    Text.hex 4 n = [Text.hexDigit (n / 4096 % 16), Text.hexDigit (n / 256 % 16),
      Text.hexDigit (n / 16 % 16), Text.hexDigit (n % 16)] := by
  simp [Text.hex, List.range_succ]

theorem hexValue?_hex {n : Nat} (h : n < 0x10000) : hexValue? (Text.hex 4 n) = some n := by
  have hd : ∀ m, Text.hexDigit? (Text.hexDigit (m % 16)) = some (m % 16) := fun m =>
    hexDigit?_hexDigit _ (Nat.mod_lt _ (by decide))
  rw [hex_four]
  simp only [hexValue?, List.foldl_cons, List.foldl_nil, hd, Option.bind_eq_bind, Option.bind_some,
    Option.pure_def, Option.some.injEq]
  omega

theorem readUnits_unitEscape (opening : Text) {n : Nat} (h : n < 0x10000) {after : Text}
    (hafter : after ≠ []) :
    readUnits opening (unitEscape n ++ after) =
      (readUnits opening after).map fun (ns, r) => (n :: ns, r) := by
  have hvalue := hexValue?_hex h
  rw [hex_four] at hvalue
  have hempty : after.isEmpty = false := by simpa using hafter
  rw [unitEscape, hex_four]
  simp only [List.cons_append, List.nil_append]
  rw [readUnits]
  simp [hvalue, hempty]

/-! ## Characters -/

/-- The numbers that a written character is read as. -/
def units (ascii : Bool) (c : Char) : List Nat :=
  if ascii ∧ 0x10000 ≤ c.toNat then
    [0xD800 + (c.toNat - 0x10000) / 0x400, 0xDC00 + (c.toNat - 0x10000) % 0x400]
  else [c.toNat]

theorem toNat_lt (c : Char) : c.toNat < 0x110000 := by
  rcases c.valid with h | h
  · exact Nat.lt_trans h (by decide)
  · exact h.2

theorem readUnits_charEscape (opening : Text) {ascii : Bool} {c : Char}
    (h : ascii = true ∨ c.toNat < 0x10000) {after : Text} (hafter : after ≠ []) :
    readUnits opening (charEscape c ++ after) =
      (readUnits opening after).map fun (ns, r) => (units ascii c ++ ns, r) := by
  have hc := toNat_lt c
  unfold charEscape units
  dsimp only
  split
  · rename_i hsmall
    rw [readUnits_unitEscape opening hsmall hafter, if_neg (by omega)]
    rfl
  · rename_i hlarge
    have hascii : ascii = true := h.resolve_right hlarge
    rw [List.append_assoc, readUnits_unitEscape opening (by omega) (by simp [unitEscape]),
      readUnits_unitEscape opening (by omega) hafter, if_pos ⟨hascii, by omega⟩]
    cases readUnits opening after <;> rfl

theorem units_of_lt {ascii : Bool} {c : Char} (h : ascii = false ∨ c.toNat < 0x10000) :
    units ascii c = [c.toNat] := by
  rw [units, if_neg]
  rintro ⟨rfl, hlarge⟩
  rcases h with h | h
  · cases h
  · omega

theorem readUnits_short (opening : Text) {e d : Char} (he : e ≠ 'u')
    (hd : simpleEscape? e = some d) (after : Text) :
    readUnits opening ('\\' :: e :: after) =
      (readUnits opening after).map fun (ns, r) => (d.toNat :: ns, r) := by
  rw [readUnits.eq_def]
  simp [he, hd]

theorem readUnits_plain (opening : Text) {c : Char} (hquote : c ≠ '"') (hslash : c ≠ '\\')
    (hcontrol : ¬ c.toNat < 0x20) (after : Text) :
    readUnits opening (c :: after) =
      (readUnits opening after).map fun (ns, r) => (c.toNat :: ns, r) := by
  rw [readUnits.eq_def]
  simp [hquote, hslash, hcontrol]

theorem readUnits_writeChar (opening : Text) (ascii : Bool) (c : Char) {after : Text}
    (hafter : after ≠ []) :
    readUnits opening (writeChar ascii c ++ after) =
      (readUnits opening after).map fun (ns, r) => (units ascii c ++ ns, r) := by
  -- the characters with an escape of two characters
  have hshort : ∀ {e d : Char}, e ≠ 'u' → simpleEscape? e = some d → d.toNat < 0x10000 →
      readUnits opening (['\\', e] ++ after) =
        (readUnits opening after).map fun (ns, r) => (units ascii d ++ ns, r) := by
    intro e d he hd hsmall
    rw [units_of_lt (Or.inr hsmall)]
    exact readUnits_short opening he hd after
  unfold writeChar
  iterate 7
    split
    · rename_i h
      subst h
      exact hshort (by decide) rfl (by decide)
  split
  · rename_i hcontrol
    exact readUnits_charEscape opening (Or.inr (by omega)) hafter
  rename_i hquote hslash _ _ _ _ _ hcontrol
  split
  · rename_i hascii
    have hascii : ascii = true := by
      rw [Bool.and_eq_true] at hascii
      exact hascii.1
    exact readUnits_charEscape opening (Or.inl hascii) hafter
  · rename_i hraw
    have hplain : ascii = false ∨ c.toNat < 0x10000 := by
      cases ascii with
      | false => exact Or.inl rfl
      | true =>
        have hlow : ¬ 0x7F ≤ c.toNat := by simpa using hraw
        exact Or.inr (by omega)
    rw [units_of_lt hplain]
    exact readUnits_plain opening hquote hslash hcontrol after

/-! ## Units to characters -/

theorem not_surrogate (c : Char) : highUnit c.toNat = false ∧ lowUnit c.toNat = false := by
  have hvalid : c.toNat < 0xD800 ∨ 0xDFFF < c.toNat := by
    rcases c.valid with h | h
    · exact Or.inl h
    · exact Or.inr h.1
  simp only [highUnit, lowUnit, Bool.and_eq_false_iff, decide_eq_false_iff_not]
  omega

theorem unitChar_toNat (c : Char) : unitChar c.toNat = c := by
  obtain ⟨hhigh, hlow⟩ := not_surrogate c
  rw [unitChar, hhigh, hlow]
  exact Char.ofNat_toNat c

theorem pairChar_units {c : Char} (h : 0x10000 ≤ c.toNat) :
    pairChar (0xD800 + (c.toNat - 0x10000) / 0x400) (0xDC00 + (c.toNat - 0x10000) % 0x400) =
      c := by
  have hsum : 0x10000 + (0xD800 + (c.toNat - 0x10000) / 0x400 - 0xD800) * 0x400 +
      (0xDC00 + (c.toNat - 0x10000) % 0x400 - 0xDC00) = c.toNat := by omega
  rw [pairChar, hsum, Char.ofNat_toNat]

theorem joinUnits_toNat_cons (c : Char) (ns : List Nat) :
    joinUnits (c.toNat :: ns) = c :: joinUnits ns := by
  cases ns with
  | nil => simp [joinUnits, unitChar_toNat]
  | cons n ns =>
    rw [joinUnits, (not_surrogate c).1, unitChar_toNat]
    rfl

theorem joinUnits_units (ascii : Bool) (c : Char) (ns : List Nat) :
    joinUnits (units ascii c ++ ns) = c :: joinUnits ns := by
  unfold units
  split
  · rename_i h
    have hc := toNat_lt c
    have hhigh : highUnit (0xD800 + (c.toNat - 0x10000) / 0x400) = true := by
      simp only [highUnit, Bool.and_eq_true, decide_eq_true_eq]
      omega
    have hlow : lowUnit (0xDC00 + (c.toNat - 0x10000) % 0x400) = true := by
      simp only [lowUnit, Bool.and_eq_true, decide_eq_true_eq]
      omega
    simp only [List.cons_append, List.nil_append]
    rw [joinUnits, hhigh, hlow, pairChar_units h.2]
    rfl
  · exact joinUnits_toNat_cons c ns

theorem joinUnits_flatMap_units (ascii : Bool) (text : Text) :
    joinUnits (text.flatMap (units ascii)) = text := by
  induction text with
  | nil => rfl
  | cons c rest ih => rw [List.flatMap_cons, joinUnits_units, ih]

/-! ## Texts -/

theorem readUnits_written (opening : Text) (ascii : Bool) (text rest : Text) :
    readUnits opening (text.flatMap (writeChar ascii) ++ '"' :: rest) =
      .ok (text.flatMap (units ascii), rest) := by
  induction text with
  | nil =>
    rw [List.flatMap_nil, List.nil_append, readUnits.eq_def]
    simp
  | cons c text ih =>
    rw [List.flatMap_cons, List.append_assoc, readUnits_writeChar opening ascii c (by simp), ih]
    rfl

/-- A text that was written is read back, whatever follows it. -/
theorem readText_writeText (ascii : Bool) (s : String) (rest : Text) :
    ∃ body, writeText ascii s ++ rest = '"' :: body ∧ readText body = .ok (s, rest) := by
  refine ⟨s.toList.flatMap (writeChar ascii) ++ '"' :: rest, by simp [writeText], ?_⟩
  rw [readText, readUnits_written]
  simp [Except.map, joinUnits_flatMap_units]

end TidyImports.Json
