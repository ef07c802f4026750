import Mathlib.Algebra.GroupWithZero.Nat
import Sift.Number.Binary

/-!
# Rounding to a format

Rounding depends on the quotient alone, not on how it is written (`round_mul`), and leaves the
values of the format as they are (`round_units`): the binary logarithm of a value finds the exponent
that it is written with.

Rounding keeps the order of what is rounded (`round_mono`), so an integer that is not above another
does not come above it as a number of the format (`Binary.rank_ofInt_mono`).
-/

namespace Sift
namespace Format

/-! ## Quotients -/

theorem roundHalfEven_mul (n d : Nat) {c : Nat} (hc : 0 < c) :
    roundHalfEven (n * c) (d * c) = roundHalfEven n d := by
  have hmod : n * c % (d * c) = n % d * c := Nat.mul_mod_mul_right c n d
  have hlt : ∀ a b : Nat, a * c < b * c ↔ a < b := fun a b => Nat.mul_lt_mul_right hc
  unfold roundHalfEven
  simp only [Nat.mul_div_mul_right _ _ hc, hmod, ← Nat.mul_assoc, hlt]

theorem roundHalfEven_of_multiple (q : Nat) {d : Nat} (hd : 0 < d) :
    roundHalfEven (q * d) d = q := by
  simp [roundHalfEven, Nat.mul_div_cancel _ hd, hd]

theorem round_mul (f : Format) (n d : Nat) {c : Nat} (hc : 0 < c) :
    f.round (n * c) (d * c) = f.round n d := by
  unfold round
  simp only [Nat.mul_div_mul_right _ _ hc, Nat.mul_right_comm d c, roundHalfEven_mul _ _ hc]

/-! ## Values of the format -/

theorem units_of_subnormal {f : Format} {m : Nat} (h : m < 2 ^ f.fractionBits) :
    f.units m = m := by
  show (if m / 2 ^ f.fractionBits = 0 then m % 2 ^ f.fractionBits else _) = m
  rw [if_pos (Nat.div_eq_of_lt h), Nat.mod_eq_of_lt h]

/-- A magnitude that is not subnormal: the exponent field, one less, and the significand. -/
theorem exists_significand {f : Format} {m : Nat} (h : 2 ^ f.fractionBits ≤ m) :
    ∃ e s, 2 ^ f.fractionBits ≤ s ∧ s < 2 ^ (f.fractionBits + 1) ∧
      m = e * 2 ^ f.fractionBits + s ∧ f.units m = s * 2 ^ e := by
  have hpos : 0 < 2 ^ f.fractionBits := Nat.two_pow_pos _
  have hdiv : 1 ≤ m / 2 ^ f.fractionBits := (Nat.one_le_div_iff hpos).mpr h
  have hmod := Nat.mod_lt m hpos
  have hsplit := Nat.div_add_mod m (2 ^ f.fractionBits)
  obtain ⟨e, he⟩ := Nat.exists_eq_succ_of_ne_zero (Nat.ne_of_gt hdiv)
  refine ⟨e, 2 ^ f.fractionBits + m % 2 ^ f.fractionBits, by omega, ?_, ?_, ?_⟩
  · rw [Nat.pow_succ]
    omega
  · rw [he, Nat.succ_eq_add_one, Nat.mul_add, Nat.mul_one, Nat.mul_comm] at hsplit
    omega
  · simp [units, he]

/-- A value is rounded in units of the last place of its significand. -/
theorem round_one (f : Format) (n : Nat) :
    f.round n 1 = min ((Nat.log2 n - f.fractionBits) * 2 ^ f.fractionBits +
      roundHalfEven n (2 ^ (Nat.log2 n - f.fractionBits))) f.infinity := by
  simp [round]

theorem round_units {f : Format} {m : Nat} (h : m < f.infinity) : f.round (f.units m) 1 = m := by
  have hle : m ≤ f.infinity := Nat.le_of_lt h
  rw [round_one]
  rcases Nat.lt_or_ge m (2 ^ f.fractionBits) with hlow | hhigh
  · have hlog : Nat.log2 m - f.fractionBits = 0 := by
      rcases Nat.eq_zero_or_pos m with rfl | hm
      · rw [Nat.log2_zero, Nat.zero_sub]
      · exact Nat.sub_eq_zero_of_le (Nat.le_of_lt ((Nat.log2_lt (Nat.ne_of_gt hm)).mpr hlow))
    have hround : roundHalfEven m 1 = m := by
      simpa using roundHalfEven_of_multiple m (d := 1) (by decide)
    rw [units_of_subnormal hlow, hlog, Nat.pow_zero, hround, Nat.zero_mul, Nat.zero_add,
      Nat.min_eq_left hle]
  · obtain ⟨e, s, hs, hs', hm, hunits⟩ := exists_significand hhigh
    have hpos : 0 < 2 ^ e := Nat.two_pow_pos e
    have hne : s * 2 ^ e ≠ 0 :=
      Nat.mul_ne_zero (Nat.ne_of_gt (Nat.lt_of_lt_of_le (Nat.two_pow_pos _) hs)) (Nat.ne_of_gt hpos)
    have hlog : Nat.log2 (s * 2 ^ e) = f.fractionBits + e := by
      refine (Nat.log2_eq_iff hne).mpr ⟨?_, ?_⟩
      · rw [Nat.pow_add]
        exact Nat.mul_le_mul_right _ hs
      · rw [Nat.add_right_comm, Nat.pow_add]
        exact Nat.mul_lt_mul_of_pos_right hs' hpos
    rw [hunits, hlog, Nat.add_sub_cancel_left, roundHalfEven_of_multiple s hpos, ← hm,
      Nat.min_eq_left hle]

/-- A finite value is below two to the power of the greatest exponent field and the fraction. -/
theorem units_lt {f : Format} {m : Nat} (h : m < f.infinity) :
    f.units m < 2 ^ (2 ^ f.exponentBits - 2 + f.fractionBits) := by
  rcases Nat.lt_or_ge m (2 ^ f.fractionBits) with hlow | hhigh
  · rw [units_of_subnormal hlow]
    exact Nat.lt_of_lt_of_le hlow (Nat.pow_le_pow_right (by decide) (Nat.le_add_left _ _))
  · obtain ⟨e, s, hs, hs', hm, hunits⟩ := exists_significand hhigh
    -- the exponent field is one more than `e`, and not the one of infinity
    have he : e + 1 < 2 ^ f.exponentBits - 1 := by
      refine Nat.lt_of_mul_lt_mul_right (a := 2 ^ f.fractionBits) (Nat.lt_of_le_of_lt ?_ h)
      rw [hm, Nat.add_mul, Nat.one_mul]
      exact Nat.add_le_add_left hs _
    calc f.units m = s * 2 ^ e := hunits
      _ < 2 ^ (f.fractionBits + 1) * 2 ^ e := Nat.mul_lt_mul_of_pos_right hs' (Nat.two_pow_pos e)
      _ = 2 ^ (e + 1 + f.fractionBits) := by rw [← Nat.pow_add]; congr 1; omega
      _ ≤ 2 ^ (2 ^ f.exponentBits - 2 + f.fractionBits) :=
        Nat.pow_le_pow_right (by decide) (by omega)

/-! ## The order of what is rounded -/

theorem div_le_roundHalfEven (n d : Nat) : n / d ≤ roundHalfEven n d := by
  simp only [roundHalfEven]
  split
  · omega
  · split <;> try split
    all_goals omega

theorem roundHalfEven_le (n d : Nat) : roundHalfEven n d ≤ n / d + 1 := by
  simp only [roundHalfEven]
  split
  · omega
  · split <;> try split
    all_goals omega

theorem roundHalfEven_mono {m n : Nat} (h : m ≤ n) (d : Nat) :
    roundHalfEven m d ≤ roundHalfEven n d := by
  have hdiv : m / d ≤ n / d := Nat.div_le_div_right h
  have hlow := roundHalfEven_le m d
  have hhigh := div_le_roundHalfEven n d
  by_cases hq : m / d = n / d
  · -- both quotients have one whole part, so their remainders are ordered
    have hm := Nat.div_add_mod m d
    have hn := Nat.div_add_mod n d
    rw [hq] at hm
    have hmod : m % d ≤ n % d := by omega
    by_cases hbelow : 2 * (m % d) < d
    · have hround : roundHalfEven m d = n / d := by simp [roundHalfEven, hbelow, hq]
      omega
    · have hbelow' : ¬ 2 * (n % d) < d := by omega
      by_cases habove : d < 2 * (n % d)
      · have hround : roundHalfEven n d = n / d + 1 := by simp [roundHalfEven, hbelow', habove]
        omega
      · have habove' : ¬ d < 2 * (m % d) := by omega
        simp [roundHalfEven, hbelow, hbelow', habove, habove', hq]
  · omega

theorem log2_le_of_le {m n : Nat} (h : m ≤ n) : Nat.log2 m ≤ Nat.log2 n := by
  by_cases hm : m = 0
  · rw [hm, Nat.log2_zero]
    exact Nat.zero_le _
  · have hn : n ≠ 0 := by omega
    exact (Nat.le_log2 hn).mpr (Nat.le_trans (Nat.log2_self_le hm) h)

theorem round_mono (f : Format) {m n : Nat} (h : m ≤ n) : f.round m 1 ≤ f.round n 1 := by
  rw [round_one, round_one]
  have hlog := log2_le_of_le h
  have hshift : Nat.log2 m - f.fractionBits ≤ Nat.log2 n - f.fractionBits := by omega
  have hm : m < 2 ^ (f.fractionBits + 1) * 2 ^ (Nat.log2 m - f.fractionBits) := by
    rw [← Nat.pow_add]
    exact Nat.lt_of_lt_of_le Nat.lt_log2_self (Nat.pow_le_pow_right (by decide) (by omega))
  refine Nat.le_min.mpr ⟨Nat.le_trans (Nat.min_le_left _ _) ?_, Nat.min_le_right _ _⟩
  generalize hs : Nat.log2 m - f.fractionBits = s at hm hshift ⊢
  generalize ht : Nat.log2 n - f.fractionBits = t at hshift ⊢
  by_cases hst : s = t
  · rw [hst]
    exact Nat.add_le_add_left (roundHalfEven_mono h _) _
  · -- the significand of the larger one starts where that of the smaller one carries out
    have hn : n ≠ 0 := by
      rintro rfl
      rw [Nat.log2_zero] at ht
      omega
    have hlow : 2 ^ f.fractionBits ≤ n / 2 ^ t := by
      rw [Nat.le_div_iff_mul_le (Nat.two_pow_pos t), ← Nat.pow_add,
        show f.fractionBits + t = Nat.log2 n by omega]
      exact Nat.log2_self_le hn
    have hhigh : m / 2 ^ s < 2 ^ (f.fractionBits + 1) :=
      (Nat.div_lt_iff_lt_mul (Nat.two_pow_pos s)).mpr hm
    calc s * 2 ^ f.fractionBits + roundHalfEven m (2 ^ s)
        ≤ s * 2 ^ f.fractionBits + 2 ^ (f.fractionBits + 1) :=
          Nat.add_le_add_left (Nat.le_trans (roundHalfEven_le m _) hhigh) _
      _ = (s + 1) * 2 ^ f.fractionBits + 2 ^ f.fractionBits := by
          rw [Nat.pow_succ, Nat.add_mul, Nat.one_mul]
          omega
      _ ≤ t * 2 ^ f.fractionBits + 2 ^ f.fractionBits :=
          Nat.add_le_add_right (Nat.mul_le_mul_right _ (by omega)) _
      _ ≤ t * 2 ^ f.fractionBits + roundHalfEven n (2 ^ t) :=
          Nat.add_le_add_left (Nat.le_trans hlow (div_le_roundHalfEven n _)) _

end Format

theorem Binary.rank_ofInt_mono (f : Format) {a b : Int} (h : a ≤ b) :
    (ofInt f a).rank ≤ (ofInt f b).rank := by
  have hmagnitude : ∀ m n : Nat, m ≤ n →
      f.round (m * Nat.pow 2 f.scale) 1 ≤ f.round (n * Nat.pow 2 f.scale) 1 :=
    fun m n hmn => f.round_mono (Nat.mul_le_mul_right _ hmn)
  simp only [rank, ofInt, nearest, decide_eq_true_eq]
  by_cases ha : a < 0
  · by_cases hb : b < 0
    · have hround := hmagnitude b.natAbs a.natAbs (by omega)
      rw [if_pos ha, if_pos hb]
      omega
    · rw [if_pos ha, if_neg hb]
      omega
  · have hb : ¬ b < 0 := by omega
    have hround := hmagnitude a.natAbs b.natAbs (by omega)
    rw [if_neg ha, if_neg hb]
    omega

end Sift
