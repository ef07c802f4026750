import Mathlib.Algebra.GroupWithZero.Nat
import Mathlib.Tactic.Ring
import Sift.Text.Ascii

/-!
# Runs of decimal digits

A number is read back from its digits (`digitsValue_toDigits`), and zeros in front of them or behind
them do what they do in writing.
-/

namespace Sift
namespace Text

theorem digitsValue_append (xs ys : List Char) :
    digitsValue (xs ++ ys) = 10 ^ ys.length * digitsValue xs + digitsValue ys := by
  have happend := Nat.ofDigitChars_append (b := 10) (l := xs) (m := ys) 0
  rw [Nat.ofDigitChars_eq_ofDigitChars_zero (l := ys)] at happend
  exact happend

theorem digitsValue_toDigits (n : Nat) : digitsValue (Nat.toDigits 10 n) = n :=
  Nat.ofDigitChars_ten_toDigits

theorem digitsValue_zeros (k : Nat) : digitsValue (List.replicate k '0') = 0 :=
  Nat.ofDigitChars_replicate_zero (b := 10)

theorem isDigit_of_mem_toDigits {n : Nat} {c : Char} (h : c ∈ Nat.toDigits 10 n) :
    c.isDigit = true :=
  Nat.isDigit_of_mem_toDigits (by decide) (by decide) h

theorem isDigit_of_mem_zeros {k : Nat} {c : Char} (h : c ∈ List.replicate k '0') :
    c.isDigit = true := by
  rw [List.eq_of_mem_replicate h]
  decide

theorem digitsValue_lt {cs : List Char} (h : ∀ c ∈ cs, c.isDigit = true) :
    digitsValue cs < 10 ^ cs.length := by
  induction cs with
  | nil => decide
  | cons c cs ih =>
    rw [List.forall_mem_cons] at h
    have hdigit : 48 ≤ c.toNat ∧ c.toNat ≤ 57 := Char.isDigit_iff_toNat.mp h.1
    have hc : digitsValue [c] ≤ 9 := by
      show 10 * 0 + (c.toNat - 48) ≤ 9
      omega
    have hmul := Nat.mul_le_mul_left (10 ^ cs.length) hc
    have hrest := ih h.2
    rw [← List.singleton_append, digitsValue_append, List.length_append, List.length_singleton,
      Nat.pow_add]
    omega

theorem digitsValue_take_drop (cs : List Char) (k : Nat) :
    digitsValue cs =
      10 ^ (cs.drop k).length * digitsValue (cs.take k) + digitsValue (cs.drop k) := by
  rw [← digitsValue_append, List.take_append_drop]

theorem digitsValue_eq_zero_iff {cs : List Char} (h : ∀ c ∈ cs, c.isDigit = true) :
    digitsValue cs = 0 ↔ ∀ c ∈ cs, c = '0' := by
  refine ⟨fun hzero => ?_, fun hzeros => ?_⟩
  · induction cs with
    | nil => simp
    | cons c cs ih =>
      rw [List.forall_mem_cons] at h ⊢
      rw [← List.singleton_append, digitsValue_append, Nat.add_eq_zero_iff,
        Nat.mul_eq_zero] at hzero
      have hpow : 10 ^ cs.length ≠ 0 := Nat.ne_of_gt (Nat.pow_pos (by decide))
      have hc : 10 * 0 + (c.toNat - 48) = 0 := hzero.1.resolve_left hpow
      have hdigit : 48 ≤ c.toNat ∧ c.toNat ≤ 57 := Char.isDigit_iff_toNat.mp h.1
      have hcode : c.toNat = '0'.toNat := by
        show c.toNat = 48
        omega
      exact ⟨Char.toNat_inj.mp hcode, ih h.2 hzero.2⟩
  · rw [List.eq_replicate_of_mem hzeros, digitsValue_zeros]

/-! ## Zeros behind the digits -/

/-- The number that the digits and zeros behind them, up to `width`, denote. -/
def filled (width : Nat) (cs : List Char) : Nat := digitsValue cs * 10 ^ (width - cs.length)

theorem filled_mul {width : Nat} {cs : List Char} (h : cs.length ≤ width) :
    filled width cs * 10 ^ cs.length = digitsValue cs * 10 ^ width := by
  rw [filled, Nat.mul_assoc, ← Nat.pow_add, Nat.sub_add_cancel h]

theorem filled_lt {width : Nat} {cs : List Char} (hdigits : ∀ c ∈ cs, c.isDigit = true)
    (h : cs.length ≤ width) : filled width cs < 10 ^ width := by
  calc filled width cs < 10 ^ cs.length * 10 ^ (width - cs.length) :=
        Nat.mul_lt_mul_of_pos_right (digitsValue_lt hdigits) (Nat.pow_pos (by decide))
    _ = 10 ^ width := by rw [← Nat.pow_add, Nat.add_sub_cancel' h]

theorem filled_eq_zero_iff {width : Nat} {cs : List Char} (hdigits : ∀ c ∈ cs, c.isDigit = true) :
    filled width cs = 0 ↔ ∀ c ∈ cs, c = '0' := by
  have hpow : 10 ^ (width - cs.length) ≠ 0 := Nat.ne_of_gt (Nat.pow_pos (by decide))
  rw [filled, Nat.mul_eq_zero, or_iff_left hpow, digitsValue_eq_zero_iff hdigits]

theorem filled_take_drop {m n : Nat} {cs : List Char} (h : cs.length ≤ m + n) :
    filled (m + n) cs = filled m (cs.take m) * 10 ^ n + filled n (cs.drop m) := by
  rcases Nat.le_total cs.length m with hle | hle
  · have hpow : 10 ^ (m + n - cs.length) = 10 ^ (m - cs.length) * 10 ^ n := by
      rw [← Nat.pow_add, Nat.sub_add_comm hle]
    have hzero : filled n [] = 0 := Nat.zero_mul _
    rw [List.take_of_length_le hle, List.drop_eq_nil_of_le hle, hzero, Nat.add_zero, filled, filled,
      hpow, Nat.mul_assoc]
  · have htake : (cs.take m).length = m := List.length_take_of_le hle
    have hdrop : (cs.drop m).length = cs.length - m := List.length_drop
    have hrest : m + n - cs.length = n - (cs.drop m).length := by omega
    have hpow : 10 ^ (cs.drop m).length * 10 ^ (n - (cs.drop m).length) = 10 ^ n := by
      rw [← Nat.pow_add, Nat.add_sub_cancel' (by omega)]
    rw [filled, filled, filled, digitsValue_take_drop cs m, htake, hrest, Nat.sub_self, ← hpow]
    ring

/-! ## Numbers of a fixed width -/

theorem isDigit_of_mem_padded {width n : Nat} {c : Char} (h : c ∈ padded width n) :
    c.isDigit = true := by
  rcases List.mem_append.mp h with h | h
  · exact isDigit_of_mem_zeros h
  · exact isDigit_of_mem_toDigits h

theorem digitsValue_padded (width n : Nat) : digitsValue (padded width n) = n := by
  rw [padded, digitsValue_append, digitsValue_zeros, digitsValue_toDigits, Nat.mul_zero,
    Nat.zero_add]

theorem length_padded {width n : Nat} (hwidth : 0 < width) (h : n < 10 ^ width) :
    (padded width n).length = width := by
  have hle := (Nat.length_toDigits_le_iff (by decide) hwidth).mpr h
  simp only [padded, List.length_append, List.length_replicate]
  omega

end Text
end Sift
