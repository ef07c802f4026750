import Mathlib.Data.List.DropRight
import Sift.Number.Shortest
import Sift.Proofs.Number.Rounding
import Sift.Proofs.Text.Digits

/-!
# Equal decimals

A decimal may be written with more or fewer zeros behind its digits.  The nearest number of a format
does not depend on them (`toBinary_widen`), and the digits of a decimal, written with a point where
there is one, are read as an equal decimal (`exists_readDigits_same`).
-/

namespace Sift
namespace Decimal

/-- The same number, written with more zeros behind its digits. -/
def widen (x : Decimal) (k : Nat) : Decimal := ⟨x.digits * 10 ^ k, x.exponent - k⟩

theorem widen_zero (x : Decimal) : x.widen 0 = x := by
  simp [widen]

theorem toDigits_mul_pow {n : Nat} (hn : 0 < n) (k : Nat) :
    Nat.toDigits 10 (n * 10 ^ k) = Nat.toDigits 10 n ++ List.replicate k '0' := by
  induction k with
  | zero => simp
  | succ k ih =>
    have hpos : 0 < n * 10 ^ k := Nat.mul_pos hn (Nat.pow_pos (by decide))
    have hlast := Nat.toDigits_append_toDigits (b := 10) (d := 0) (by decide) hpos (by decide)
    have hmul : n * 10 ^ (k + 1) = 10 * (n * 10 ^ k) + 0 := by
      rw [Nat.pow_succ, Nat.add_zero, ← Nat.mul_assoc, Nat.mul_comm]
    rw [hmul, ← hlast, ih, List.replicate_succ', List.append_assoc]
    rfl

theorem reach_widen {x : Decimal} (hx : x.digits ≠ 0) (k : Nat) : (x.widen k).reach = x.reach := by
  simp only [reach, widen, toDigits_mul_pow (Nat.pos_of_ne_zero hx), List.length_append,
    List.length_replicate]
  omega

theorem ratio_of_nonneg (scale digits e : Nat) :
    ratio scale ⟨digits, e⟩ = (digits * 10 ^ e * 2 ^ scale, 1) := by
  simp [ratio]

theorem ratio_of_nonpos (scale digits e : Nat) :
    ratio scale ⟨digits, -e⟩ = (digits * 2 ^ scale, 10 ^ e) := by
  cases e with
  | zero => simp [ratio]
  | succ e =>
    have he : ¬ 0 ≤ -((e + 1 : Nat) : Int) := by omega
    rw [ratio, if_neg he, Int.neg_neg, Int.toNat_natCast]
    rfl

theorem exists_ratio_widen (x : Decimal) (k scale : Nat) :
    ∃ c, 0 < c ∧ (x.widen k).ratio scale = ((x.ratio scale).1 * c, (x.ratio scale).2 * c) := by
  have hten : ∀ n, 0 < 10 ^ n := fun n => Nat.pow_pos (by decide)
  obtain ⟨digits, exponent⟩ := x
  obtain ⟨e, rfl | rfl⟩ := exponent.eq_nat_or_neg
  · rcases Nat.le_total k e with hk | hk
    · -- the zeros are taken from those that the exponent stands for
      obtain ⟨e, rfl⟩ := Nat.exists_eq_add_of_le hk
      have hexp : ((k + e : Nat) : Int) - k = e := by omega
      refine ⟨1, Nat.one_pos, ?_⟩
      simp only [widen, hexp, ratio_of_nonneg, Nat.pow_add, Nat.mul_one, Nat.mul_assoc]
    · -- some of the zeros stand behind the point
      obtain ⟨j, rfl⟩ := Nat.exists_eq_add_of_le hk
      have hexp : (e : Int) - (e + j : Nat) = -j := by omega
      refine ⟨10 ^ j, hten j, ?_⟩
      simp only [widen, hexp, ratio_of_nonneg, ratio_of_nonpos, Nat.pow_add, Nat.one_mul,
        Nat.mul_assoc, Nat.mul_comm (2 ^ scale)]
  · have hexp : -(e : Int) - k = -(e + k : Nat) := by omega
    refine ⟨10 ^ k, hten k, ?_⟩
    simp only [widen, hexp, ratio_of_nonpos, Nat.pow_add, Nat.mul_assoc, Nat.mul_comm (2 ^ scale)]

theorem nearest_mul (f : Format) (negative : Bool) (n d : Nat) {c : Nat} (hc : 0 < c) :
    Binary.nearest f negative (n * c) (d * c) = .nearest f negative n d := by
  simp only [Binary.nearest, Format.round_mul f n d hc]

/-- Equal decimals have the same nearest number. -/
theorem toBinary_widen (f : Format) (negative : Bool) (x : Decimal) (k : Nat) :
    (x.widen k).toBinary f negative = x.toBinary f negative := by
  unfold toBinary
  by_cases hx : x.digits = 0
  · have hk : (x.widen k).digits = 0 := by simp [widen, hx]
    rw [if_pos hx, if_pos hk]
  · have hk : (x.widen k).digits ≠ 0 := Nat.mul_ne_zero hx (Nat.ne_of_gt (Nat.pow_pos (by decide)))
    obtain ⟨c, hc, hratio⟩ := exists_ratio_widen x k f.scale
    simp only [if_neg hx, if_neg hk, reach_widen hx, hratio, nearest_mul f negative _ _ hc]

theorem toBinary_sign (f : Format) (negative : Bool) (x : Decimal) :
    x.toBinary f negative = ⟨negative, (x.toBinary f false).magnitude⟩ := by
  unfold toBinary
  split
  · rfl
  · split
    · rfl
    · split <;> rfl

/-! ## Reading digits -/

theorem readDigits_of_whole {ds : List Char} (hds : ∀ c ∈ ds, c.isDigit = true) (hne : ds ≠ []) :
    readDigits ds = some ⟨Text.digitsValue ds, 0⟩ := by
  have htake : ds.takeWhile Char.isDigit = ds := List.takeWhile_eq_self_iff.mpr hds
  have hdrop : ds.dropWhile Char.isDigit = [] := List.dropWhile_eq_nil_iff.mpr hds
  simp [readDigits, htake, hdrop, hne, readExponent]

theorem readDigits_of_point {whole fraction : List Char} (hwhole : ∀ c ∈ whole, c.isDigit = true)
    (hfraction : ∀ c ∈ fraction, c.isDigit = true) (hne : whole ≠ []) :
    readDigits (whole ++ '.' :: fraction) =
      some ⟨Text.digitsValue (whole ++ fraction), -fraction.length⟩ := by
  have htake : (whole ++ '.' :: fraction).takeWhile Char.isDigit = whole := by
    rw [List.takeWhile_append_of_pos hwhole]
    simp
  have hdrop : (whole ++ '.' :: fraction).dropWhile Char.isDigit = '.' :: fraction := by
    rw [List.dropWhile_append_of_pos hwhole]
    rfl
  have htake' : fraction.takeWhile Char.isDigit = fraction :=
    List.takeWhile_eq_self_iff.mpr hfraction
  have hdrop' : fraction.dropWhile Char.isDigit = [] := List.dropWhile_eq_nil_iff.mpr hfraction
  simp [readDigits, htake, hdrop, htake', hdrop', hne, readExponent]

/-! ## The digits that are kept -/

/-- What is kept of the digits, and the zeros at the end that are not. -/
theorem exists_trimmed (x : Decimal) :
    ∃ k, Nat.toDigits 10 x.digits = x.trimmed.1 ++ List.replicate k '0' ∧
      x.trimmed.2 = x.exponent + k := by
  let kept := (Nat.toDigits 10 x.digits).rdropWhile (· == '0')
  let zeros := (Nat.toDigits 10 x.digits).rtakeWhile (· == '0')
  have hsplit : kept ++ zeros = Nat.toDigits 10 x.digits := List.rdropWhile_append_rtakeWhile
  have hzeros : zeros = List.replicate zeros.length '0' :=
    List.eq_replicate_of_mem fun c hc => by simpa using List.mem_rtakeWhile_imp hc
  have hlength : (Nat.toDigits 10 x.digits).length - kept.length = zeros.length := by
    rw [← hsplit, List.length_append, Nat.add_sub_cancel_left]
  refine ⟨zeros.length, ?_, ?_⟩
  · rw [← hzeros]
    exact hsplit.symm
  · rw [← hlength]
    rfl

theorem isDigit_of_mem_trimmed {x : Decimal} {c : Char} (hc : c ∈ x.trimmed.1) :
    c.isDigit = true := by
  obtain ⟨k, hdigits, -⟩ := exists_trimmed x
  refine Text.isDigit_of_mem_toDigits (n := x.digits) ?_
  rw [hdigits]
  exact List.mem_append_left _ hc

theorem mem_positional {x : Decimal} {c : Char} (hc : c ∈ x.positional) :
    c.isDigit = true ∨ c = '.' := by
  unfold positional at hc
  simp only at hc
  split at hc
  · rcases List.mem_append.mp hc with hc | hc
    · exact .inl (isDigit_of_mem_trimmed hc)
    · exact .inl (Text.isDigit_of_mem_zeros hc)
  · split at hc
    · rcases List.mem_append.mp hc with hc | hc
      · exact .inl (isDigit_of_mem_trimmed (List.mem_of_mem_take hc))
      · rcases List.mem_cons.mp hc with hc | hc
        · exact .inr hc
        · exact .inl (isDigit_of_mem_trimmed (List.mem_of_mem_drop hc))
    · simp only [List.cons_append, List.mem_cons, List.mem_append] at hc
      rcases hc with rfl | hc | hc | hc
      · exact .inl (by decide)
      · exact .inr hc
      · exact .inl (Text.isDigit_of_mem_zeros hc)
      · exact .inl (isDigit_of_mem_trimmed hc)

/-- A number is equal to the decimal with the digits that are kept. -/
theorem exists_eq_widen (x : Decimal) :
    ∃ k, x = widen ⟨Text.digitsValue x.trimmed.1, x.trimmed.2⟩ k := by
  obtain ⟨k, hdigits, hexponent⟩ := exists_trimmed x
  have hvalue := Text.digitsValue_toDigits x.digits
  rw [hdigits, Text.digitsValue_append, Text.digitsValue_zeros, List.length_replicate,
    Nat.add_zero, Nat.mul_comm] at hvalue
  refine ⟨k, ?_⟩
  rw [widen, hvalue, hexponent, Int.add_sub_cancel]

/-! ## The written digits

They are those that are kept, with zeros behind them if the point is further to the right, and with
zeros before them if it is further to the left. -/

section

variable {ds : List Char} {e : Int}

theorem readDigits_zeros_behind (hds : ∀ c ∈ ds, c.isDigit = true) (hne : ds ≠ []) (he : 0 ≤ e) :
    readDigits (ds ++ List.replicate e.toNat '0') =
      some (widen ⟨Text.digitsValue ds, e⟩ e.toNat) := by
  have hall : ∀ c ∈ ds ++ List.replicate e.toNat '0', c.isDigit = true :=
    List.forall_mem_append.mpr ⟨hds, fun c => Text.isDigit_of_mem_zeros⟩
  rw [readDigits_of_whole hall (by simp [hne]), Text.digitsValue_append, Text.digitsValue_zeros,
    List.length_replicate, Nat.add_zero, Nat.mul_comm, widen, Int.toNat_of_nonneg he, Int.sub_self]

theorem readDigits_point_within (hds : ∀ c ∈ ds, c.isDigit = true) (he : e < 0)
    (hpoint : 0 < ds.length + e) :
    readDigits (ds.take (ds.length + e).toNat ++ '.' :: ds.drop (ds.length + e).toNat) =
      some ⟨Text.digitsValue ds, e⟩ := by
  have hwhole : ds.take (ds.length + e).toNat ≠ [] := by
    rw [← List.length_pos_iff, List.length_take]
    omega
  have hexp : -((ds.drop (ds.length + e).toNat).length : Int) = e := by
    rw [List.length_drop]
    omega
  rw [readDigits_of_point (fun c hc => hds c (List.mem_of_mem_take hc))
    (fun c hc => hds c (List.mem_of_mem_drop hc)) hwhole, List.take_append_drop, hexp]

theorem readDigits_zeros_before (hds : ∀ c ∈ ds, c.isDigit = true) (hpoint : ds.length + e ≤ 0) :
    readDigits ('0' :: '.' :: (List.replicate (-(ds.length + e)).toNat '0' ++ ds)) =
      some ⟨Text.digitsValue ds, e⟩ := by
  let fraction := List.replicate (-(ds.length + e)).toNat '0' ++ ds
  have hwhole : ∀ c ∈ ['0'], c.isDigit = true := List.forall_mem_singleton.mpr rfl
  have hfraction : ∀ c ∈ fraction, c.isDigit = true :=
    List.forall_mem_append.mpr ⟨fun c => Text.isDigit_of_mem_zeros, hds⟩
  have hvalue : Text.digitsValue ('0' :: fraction) = Text.digitsValue ds := by
    rw [← List.cons_append, ← List.replicate_succ, Text.digitsValue_append, Text.digitsValue_zeros,
      Nat.mul_zero, Nat.zero_add]
  have hexp : -(fraction.length : Int) = e := by
    rw [List.length_append, List.length_replicate]
    omega
  have hread := readDigits_of_point hwhole hfraction (List.cons_ne_nil _ _)
  rw [List.singleton_append, List.singleton_append, hvalue, hexp] at hread
  exact hread

end

theorem trimmed_ne_nil {x : Decimal} (hx : x.digits ≠ 0) : x.trimmed.1 ≠ [] := by
  intro hnil
  obtain ⟨k, hk⟩ := exists_eq_widen x
  apply hx
  rw [hk, hnil]
  exact Nat.zero_mul _

theorem exists_readDigits_positional {x : Decimal} (hx : x.digits ≠ 0) :
    ∃ k, readDigits x.positional =
      some (widen ⟨Text.digitsValue x.trimmed.1, x.trimmed.2⟩ k) := by
  have hdigits : ∀ c ∈ x.trimmed.1, c.isDigit = true := fun c => isDigit_of_mem_trimmed
  unfold positional
  simp only
  split
  · rename_i he
    exact ⟨_, readDigits_zeros_behind hdigits (trimmed_ne_nil hx) he⟩
  · rename_i he
    refine ⟨0, ?_⟩
    rw [widen_zero]
    split
    · rename_i hpoint
      exact readDigits_point_within hdigits (Int.not_le.mp he) hpoint
    · rename_i hpoint
      exact readDigits_zeros_before hdigits (Int.not_lt.mp hpoint)

theorem exists_readDigits_same {x : Decimal} (hx : x.digits ≠ 0) :
    ∃ y, readDigits x.positional = some y ∧
      ∀ f negative, y.toBinary f negative = x.toBinary f negative := by
  obtain ⟨k, hk⟩ := exists_eq_widen x
  obtain ⟨j, hj⟩ := exists_readDigits_positional hx
  refine ⟨_, hj, fun f negative => ?_⟩
  rw [toBinary_widen]
  conv_rhs => rw [hk, toBinary_widen]

end Decimal
end Sift
