import Mathlib.Algebra.Group.Nat.Defs
import Mathlib.Data.List.Induction
import TidyImports.Number.Read

/-!
# Decimal digits of integers

* `value_toDigits`: the digits of a natural number have its value;
* `length_toDigits_le_iff`: an integer is written in no more digits than may be read exactly when
  it may be written, and `tooManyDigits_of_length_le` says that one that was read may be written;
* `head_toDigits_ne_zero`: no zero stands in front of other digits;
* `toList_toString`: what an integer is written as.
-/

namespace TidyImports.Numeral

theorem value_append_singleton (ds : Text) (c : Char) :
    value (ds ++ [c]) = value ds * 10 + (c.toNat - 48) := by
  simp [value]

theorem value_toDigits (n : Nat) : value (Nat.toDigits 10 n) = n := by
  have hstep : (fun (m : Nat) (c : Char) => m * 10 + (c.toNat - 48)) =
      fun m c => 10 * m + (c.toNat - '0'.toNat) := by
    funext m c
    rw [Nat.mul_comm]
    rfl
  rw [value, hstep, ← Nat.ofDigitChars_eq_foldl, Nat.ofDigitChars_ten_toDigits]

theorem value_lt_pow {ds : Text} (h : ∀ c ∈ ds, c.isDigit = true) : value ds < 10 ^ ds.length := by
  induction ds using List.reverseRecOn with
  | nil => simp [value]
  | append_singleton ds c ih =>
    have hds := ih fun d hd => h d (by simp [hd])
    have hc : c.isDigit = true := h c (by simp)
    have hsmall : c.toNat - 48 < 10 := by
      simp [Char.isDigit, UInt32.le_iff_toNat_le] at hc
      have : c.toNat ≤ 57 := hc.2
      omega
    rw [value_append_singleton, List.length_append, List.length_singleton, Nat.pow_succ]
    omega

theorem isDigit_of_mem_toDigits {n : Nat} {c : Char} (h : c ∈ Nat.toDigits 10 n) :
    c.isDigit = true :=
  Nat.isDigit_of_mem_toDigits (by omega) (by omega) h

theorem tooManyDigits_eq_false_iff (n : Int) :
    tooManyDigits n = false ↔ n.natAbs < 10 ^ digitLimit := by
  rw [tooManyDigits, decide_eq_false_iff_not, Nat.not_le]
  -- unfolding by an equation would compute the power
  delta unwritable
  rw [Nat.pow_eq]

theorem length_toDigits_le_iff (n : Int) :
    (Nat.toDigits 10 n.natAbs).length ≤ digitLimit ↔ tooManyDigits n = false := by
  have hpos : 0 < digitLimit := by decide
  rw [Nat.length_toDigits_le_iff (by decide) hpos, tooManyDigits_eq_false_iff]

theorem tooManyDigits_of_length_le {ds : Text} (h : ∀ c ∈ ds, c.isDigit = true)
    (hlen : ds.length ≤ digitLimit) {n : Int} (hn : n.natAbs = value ds) :
    tooManyDigits n = false := by
  rw [tooManyDigits_eq_false_iff, hn]
  exact Nat.lt_of_lt_of_le (value_lt_pow h) (Nat.pow_le_pow_right (by decide) hlen)

theorem tooManyDigits_of_lt_ten {n : Int} (h : n.natAbs < 10) : tooManyDigits n = false := by
  have hone : 1 ≤ digitLimit := by decide
  rw [tooManyDigits_eq_false_iff]
  calc n.natAbs < 10 ^ 1 := h
    _ ≤ 10 ^ digitLimit := Nat.pow_le_pow_right (by decide) hone

theorem unwritable_eq : unwritable = 10 ^ digitLimit := by
  delta unwritable
  rw [Nat.pow_eq]

theorem tooManyDigits_unwritable : tooManyDigits unwritable = true := by
  rw [← Bool.not_eq_false, tooManyDigits_eq_false_iff, Int.natAbs_natCast, ← unwritable_eq]
  exact Nat.lt_irrefl unwritable

/-- Only zero is written with a zero at its front. -/
theorem head_toDigits_ne_zero {n : Nat} (h : n ≠ 0) {c : Char} {ds : Text}
    (hd : Nat.toDigits 10 n = c :: ds) : c ≠ '0' := by
  induction n using Nat.strongRecOn generalizing ds with
  | _ n ih =>
    rw [Nat.toDigits_eq_if (by omega)] at hd
    split at hd
    · cases hd
      rw [ne_eq, Nat.digitChar_eq_zero]
      exact h
    · cases hq : Nat.toDigits 10 (n / 10) with
      | nil => exact absurd hq Nat.toDigits_ne_nil
      | cons d rest =>
        rw [hq] at hd
        cases hd
        exact ih (n / 10) (by omega) (by omega) hq

/-! ## Integers -/

theorem toList_toString (n : Int) :
    (toString n).toList =
      if 0 ≤ n then Nat.toDigits 10 n.natAbs else '-' :: Nat.toDigits 10 n.natAbs := by
  rw [show toString n = n.repr from rfl, Int.repr_eq_if]
  split
  · rw [Nat.toList_repr]
    congr 1
    omega
  · rw [String.toList_append, Nat.toList_repr]
    have habs : (-n).toNat = n.natAbs := by omega
    rw [habs]
    rfl

theorem exists_toString_eq_cons (n : Int) :
    ∃ c text, (toString n).toList = c :: text ∧ (c.isDigit = true ∨ c = '-') := by
  rw [toList_toString]
  split
  · cases hd : Nat.toDigits 10 n.natAbs with
    | nil => exact absurd hd Nat.toDigits_ne_nil
    | cons c ds =>
      have hdigit : c.isDigit = true := isDigit_of_mem_toDigits (n := n.natAbs) (by simp [hd])
      exact ⟨c, ds, rfl, Or.inl hdigit⟩
  · exact ⟨'-', _, rfl, Or.inr rfl⟩

end TidyImports.Numeral
