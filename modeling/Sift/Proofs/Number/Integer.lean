import Mathlib.Algebra.Ring.Int.Defs
import Sift.Number.Integer
import Sift.Proofs.Text.Digits

/-!
# Integers in decimal

Each number of the width is read back from its text (`read_toString`).
-/

namespace Sift
namespace Integer

theorem le_ofDigitChars (cs : List Char) (n : Nat) : n ≤ Nat.ofDigitChars 10 cs n := by
  rw [Nat.ofDigitChars_eq_ofDigitChars_zero]
  have hmul := Nat.le_mul_of_pos_left n (show 0 < 10 ^ cs.length from Nat.pow_pos (by decide))
  omega

/-- Digits are read to the end if the number they make is within the limit. -/
theorem readDigits_eq_ok {limit : Nat} {overflow : Fault} {cs : List Char}
    (hcs : ∀ c ∈ cs, c.isDigit = true) {n : Nat} (h : Nat.ofDigitChars 10 cs n ≤ limit) :
    readDigits limit overflow n cs = .ok (Nat.ofDigitChars 10 cs n) := by
  induction cs generalizing n with
  | nil => rfl
  | cons c cs ih =>
    rw [List.forall_mem_cons] at hcs
    rw [Nat.ofDigitChars_cons] at h ⊢
    have hfirst := Nat.le_trans (le_ofDigitChars cs _) h
    simp only [readDigits, Text.digit?, hcs.1, if_true, if_pos hfirst]
    exact ih hcs.2 h

theorem readDigits_toDigits {limit : Nat} {overflow : Fault} {n : Nat} (h : n ≤ limit) :
    readDigits limit overflow 0 (Nat.toDigits 10 n) = .ok n := by
  have hvalue := Nat.ofDigitChars_ten_toDigits (n := n)
  rw [readDigits_eq_ok (fun c => Text.isDigit_of_mem_toDigits) (by rwa [hvalue]), hvalue]

theorem read_of_digits {width n : Nat} {text : String} (htext : text.toList = Nat.toDigits 10 n)
    (h : n < 2 ^ (width - 1)) : read width text = .ok n := by
  obtain ⟨c, cs, hcs⟩ := List.exists_cons_of_ne_nil (Nat.toDigits_ne_nil (n := n) (b := 10))
  have hc : c.isDigit = true := Text.isDigit_of_mem_toDigits (hcs ▸ List.mem_cons_self)
  have hlimit : n ≤ Nat.pow 2 (width - 1) - 1 := Nat.le_sub_one_of_lt h
  unfold read
  rw [htext, hcs]
  split
  · rename_i hnil
    cases hnil
  iterate 4
    · rename_i hsign
      rw [(List.cons.inj hsign).1] at hc
      cases hc
  · rw [← hcs, readDigits_toDigits hlimit]
    rfl

theorem read_of_minus {width n : Nat} {text : String}
    (htext : text.toList = '-' :: Nat.toDigits 10 n) (h : n ≤ 2 ^ (width - 1)) :
    read width text = .ok (-n) := by
  have hlimit : n ≤ Nat.pow 2 (width - 1) := h
  unfold read
  rw [htext]
  split
  · rename_i hnil
    cases hnil
  · rename_i hplus
    cases hplus
  · rename_i hminus
    exact absurd (List.cons.inj hminus).2 Nat.toDigits_ne_nil
  · rename_i hplus
    cases hplus
  · rename_i hminus
    rw [← (List.cons.inj hminus).2, readDigits_toDigits hlimit]
    rfl
  · rename_i hother
    exact absurd rfl (hother _)

/-- The number has `width` bits in two's complement. -/
def InRange (width : Nat) (n : Int) : Prop := -2 ^ (width - 1) ≤ n ∧ n < 2 ^ (width - 1)

theorem read_toString {width : Nat} {n : Int} (h : InRange width n) :
    read width (toString n) = .ok n := by
  obtain ⟨hlow, hhigh⟩ := h
  rw [Int.toString_eq_repr, Int.repr_eq_if]
  split
  · rename_i hn
    obtain ⟨k, rfl⟩ := Int.eq_ofNat_of_zero_le hn
    exact read_of_digits Nat.toList_repr (by exact_mod_cast hhigh)
  · obtain ⟨k, hk⟩ := Int.eq_ofNat_of_zero_le (show 0 ≤ -n by omega)
    have hn : n = -k := by omega
    have htext : ("-" ++ (-n).toNat.repr).toList = '-' :: Nat.toDigits 10 k := by
      simp [hk, Nat.toList_repr]
    rw [hn] at hlow ⊢
    rw [hn] at htext
    exact read_of_minus htext (by exact_mod_cast Int.neg_le_neg_iff.mp hlow)

end Integer
end Sift
