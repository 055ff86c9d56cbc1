import TidyImports.Text.Utf8

/-!
# UTF-8 there and back

A text is read back from the bytes that it is written as, and no other bytes are read as that text:
a character of each width has one spelling, since the reader refuses the others.

* `decode_encode`, `encode_of_decodeFrom` — written and read, read and written;
* `decode_eq_ok_iff` — the two in one;
* `encode_injective` — texts that are written alike are alike.
-/

namespace TidyImports.Utf8

/-! ## Numbers of characters -/

theorem toNat_ofNat {n : Nat} (h : n < 0xD800 ∨ (0xDFFF < n ∧ n < 0x110000)) :
    (Char.ofNat n).toNat = n := by
  have hvalid : n.isValidChar := h
  rw [Char.ofNat, dif_pos hvalid]
  rfl

theorem toNat_byte {n : Nat} (h : n < 256) : (UInt8.ofNat n).toNat = n := by
  rw [UInt8.toNat_ofNat', Nat.mod_eq_of_lt (by omega)]

theorem ofNat_eq_byte {n : Nat} {b : UInt8} (h : n = b.toNat) : UInt8.ofNat n = b := by
  rw [h, UInt8.ofNat_toNat]

theorem continues_iff {b : UInt8} : continues b = true ↔ 0x80 ≤ b.toNat ∧ b.toNat < 0xC0 := by
  simp [continues]

theorem second_iff {a b : UInt8} :
    second a b = true ↔ (0x80 ≤ b.toNat ∧ b.toNat < 0xC0) ∧ (a.toNat = 0xE0 → 0xA0 ≤ b.toNat) ∧
      (a.toNat = 0xED → b.toNat < 0xA0) ∧ (a.toNat = 0xF0 → 0x90 ≤ b.toNat) ∧
        (a.toNat = 0xF4 → b.toNat < 0x90) := by
  unfold second
  rw [Bool.and_eq_true, continues_iff]
  refine and_congr_right fun _ => ?_
  split <;> simp_all

/-! ## Reading one character -/

section

variable {position : Nat} {a b c d : UInt8} {rest : Bytes}

theorem decodeFrom_one (ha : a.toNat < 0x80) :
    decodeFrom position (a :: rest) =
      (Char.ofNat a.toNat :: ·) <$> decodeFrom (position + 1) rest := by
  rw [decodeFrom.eq_def]
  simp only
  rw [if_pos ha]

theorem decodeFrom_two (ha : 0xC2 ≤ a.toNat ∧ a.toNat < 0xE0) (hb : second a b = true) :
    decodeFrom position (a :: b :: rest) =
      (assemble (a.toNat - 0xC0) [b] :: ·) <$> decodeFrom (position + 2) rest := by
  rw [decodeFrom.eq_def]
  simp only
  rw [if_neg (by omega), if_neg (by omega), if_neg (by simp [hb]), if_pos (by omega)]

theorem decodeFrom_three (ha : 0xE0 ≤ a.toNat ∧ a.toNat < 0xF0) (hb : second a b = true)
    (hc : continues c = true) :
    decodeFrom position (a :: b :: c :: rest) =
      (assemble (a.toNat - 0xE0) [b, c] :: ·) <$> decodeFrom (position + 3) rest := by
  rw [decodeFrom.eq_def]
  simp only
  rw [if_neg (by omega), if_neg (by omega), if_neg (by simp [hb]), if_neg (by omega),
    if_neg (by simp [hc]), if_pos (by omega)]

theorem decodeFrom_four (ha : 0xF0 ≤ a.toNat ∧ a.toNat ≤ 0xF4) (hb : second a b = true)
    (hc : continues c = true) (hd : continues d = true) :
    decodeFrom position (a :: b :: c :: d :: rest) =
      (assemble (a.toNat - 0xF0) [b, c, d] :: ·) <$> decodeFrom (position + 4) rest := by
  rw [decodeFrom.eq_def]
  simp only
  rw [if_neg (by omega), if_neg (by omega), if_neg (by simp [hb]), if_neg (by omega),
    if_neg (by simp [hc]), if_neg (by omega), if_neg (by simp [hd])]

end

/-! ## Written and read -/

theorem decodeFrom_encodeChar (c : Char) (rest : Bytes) (position : Nat) :
    decodeFrom position (encodeChar c ++ rest) =
      (c :: ·) <$> decodeFrom (position + (encodeChar c).length) rest := by
  have hvalid : c.toNat < 0xD800 ∨ (0xDFFF < c.toNat ∧ c.toNat < 0x110000) := c.valid
  have hc : Char.ofNat c.toNat = c := Char.ofNat_toNat c
  unfold encodeChar
  generalize c.toNat = n at hvalid hc ⊢
  dsimp only
  split
  · rename_i hone
    have ha := toNat_byte (n := n) (by omega)
    rw [List.singleton_append, decodeFrom_one (by omega), ha, hc]
    rfl
  split
  · have ha := toNat_byte (n := 0xC0 + n / 64) (by omega)
    have hb := toNat_byte (n := 0x80 + n % 64) (by omega)
    have hn : (n / 64) * 64 + n % 64 = n := by omega
    rw [List.cons_append, List.singleton_append,
      decodeFrom_two (by omega) (second_iff.mpr (by omega))]
    simp only [assemble, ha, hb, List.foldl_cons, List.foldl_nil, Nat.add_sub_cancel_left, hn, hc]
    rfl
  split
  · have ha := toNat_byte (n := 0xE0 + n / 4096) (by omega)
    have hb := toNat_byte (n := 0x80 + n / 64 % 64) (by omega)
    have hd := toNat_byte (n := 0x80 + n % 64) (by omega)
    have hn : (n / 4096 * 64 + n / 64 % 64) * 64 + n % 64 = n := by omega
    simp only [List.cons_append, List.nil_append]
    rw [decodeFrom_three (by omega) (second_iff.mpr (by omega)) (continues_iff.mpr (by omega))]
    simp only [assemble, ha, hb, hd, List.foldl_cons, List.foldl_nil, Nat.add_sub_cancel_left, hn,
      hc]
    rfl
  · have ha := toNat_byte (n := 0xF0 + n / 262144) (by omega)
    have hb := toNat_byte (n := 0x80 + n / 4096 % 64) (by omega)
    have hd := toNat_byte (n := 0x80 + n / 64 % 64) (by omega)
    have he := toNat_byte (n := 0x80 + n % 64) (by omega)
    have hn : ((n / 262144 * 64 + n / 4096 % 64) * 64 + n / 64 % 64) * 64 + n % 64 = n := by omega
    simp only [List.cons_append, List.nil_append]
    rw [decodeFrom_four (by omega) (second_iff.mpr (by omega)) (continues_iff.mpr (by omega))
      (continues_iff.mpr (by omega))]
    simp only [assemble, ha, hb, hd, he, List.foldl_cons, List.foldl_nil, Nat.add_sub_cancel_left,
      hn, hc]
    rfl

theorem decodeFrom_encode (text : Text) (position : Nat) :
    decodeFrom position (encode text) = .ok text := by
  induction text generalizing position with
  | nil => rfl
  | cons c rest ih =>
    rw [encode, List.flatMap_cons, decodeFrom_encodeChar]
    rw [encode] at ih
    rw [ih]
    rfl

/-! ## Read and written -/

section

variable {a b c d : UInt8}

theorem encodeChar_one (ha : a.toNat < 0x80) : encodeChar (Char.ofNat a.toNat) = [a] := by
  rw [encodeChar, toNat_ofNat (by omega)]
  rw [if_pos (by omega), ofNat_eq_byte rfl]

theorem encodeChar_two (ha : 0xC2 ≤ a.toNat ∧ a.toNat < 0xE0) (hb : second a b = true) :
    encodeChar (assemble (a.toNat - 0xC0) [b]) = [a, b] := by
  have hbounds := second_iff.mp hb
  simp only [assemble, List.foldl_cons, List.foldl_nil]
  rw [encodeChar, toNat_ofNat (by omega)]
  rw [if_neg (by omega), if_pos (by omega), ofNat_eq_byte (b := a) (by omega),
    ofNat_eq_byte (b := b) (by omega)]

theorem encodeChar_three (ha : 0xE0 ≤ a.toNat ∧ a.toNat < 0xF0) (hb : second a b = true)
    (hc : continues c = true) : encodeChar (assemble (a.toNat - 0xE0) [b, c]) = [a, b, c] := by
  have hbounds := second_iff.mp hb
  rw [continues_iff] at hc
  simp only [assemble, List.foldl_cons, List.foldl_nil]
  rw [encodeChar, toNat_ofNat (by omega)]
  rw [if_neg (by omega), if_neg (by omega), if_pos (by omega), ofNat_eq_byte (b := a) (by omega),
    ofNat_eq_byte (b := b) (by omega), ofNat_eq_byte (b := c) (by omega)]

theorem encodeChar_four (ha : 0xF0 ≤ a.toNat ∧ a.toNat ≤ 0xF4) (hb : second a b = true)
    (hc : continues c = true) (hd : continues d = true) :
    encodeChar (assemble (a.toNat - 0xF0) [b, c, d]) = [a, b, c, d] := by
  have hbounds := second_iff.mp hb
  rw [continues_iff] at hc hd
  simp only [assemble, List.foldl_cons, List.foldl_nil]
  rw [encodeChar, toNat_ofNat (by omega)]
  rw [if_neg (by omega), if_neg (by omega), if_neg (by omega), ofNat_eq_byte (b := a) (by omega),
    ofNat_eq_byte (b := b) (by omega), ofNat_eq_byte (b := c) (by omega),
    ofNat_eq_byte (b := d) (by omega)]

end

/-- Reading goes on after a character that was written as `front`. -/
theorem encode_of_map {c : Char} {front bytes : Bytes} {text : Text} {read : Except Fault Text}
    (h : (c :: ·) <$> read = .ok text) (hc : encodeChar c = front)
    (ih : ∀ rest, read = .ok rest → encode rest = bytes) : encode text = front ++ bytes := by
  cases read with
  | error fault => cases h
  | ok rest =>
    cases h
    rw [encode, List.flatMap_cons, hc, ← encode, ih rest rfl]

theorem encode_of_decodeFrom {position : Nat} {bytes : Bytes} {text : Text}
    (h : decodeFrom position bytes = .ok text) : encode text = bytes := by
  fun_induction decodeFrom position bytes generalizing text with
  | case1 =>
    cases h
    rfl
  | case2 position a rest n hn =>
    rename_i ih
    exact encode_of_map h (encodeChar_one hn) fun _ => ih
  | case6 position a n hn hlead b rest hb hwidth =>
    rename_i ih
    exact encode_of_map h (encodeChar_two (by omega) (by simpa using hb)) fun _ => ih
  | case9 position a n hn hlead b hb hwidth c rest hc hwidth' =>
    rename_i ih
    exact encode_of_map h (encodeChar_three (by omega) (by simpa using hb) (by simpa using hc))
      fun _ => ih
  | case12 position a n hn hlead b hb hwidth c hc hwidth' d rest hd =>
    rename_i ih
    exact encode_of_map h
      (encodeChar_four (by omega) (by simpa using hb) (by simpa using hc) (by simpa using hd))
      fun _ => ih
  | case3 | case4 | case5 | case7 | case8 | case10 | case11 => cases h

theorem decode_encode (text : Text) : decode (encode text) = .ok text := decodeFrom_encode text 0

/-- The bytes that are read as a text are those that it is written as. -/
theorem decode_eq_ok_iff {bytes : Bytes} {text : Text} :
    decode bytes = .ok text ↔ bytes = encode text := by
  constructor
  · intro h
    exact (encode_of_decodeFrom h).symm
  · rintro rfl
    exact decode_encode text

theorem encode_injective : Function.Injective encode := by
  intro a b h
  exact Except.ok.inj ((decode_encode a).symm.trans (decode_eq_ok_iff.mpr h))

end TidyImports.Utf8
