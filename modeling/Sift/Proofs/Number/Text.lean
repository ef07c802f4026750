import Sift.Proofs.Number.Decimal

/-!
# Floating point numbers in text

The decimal that is chosen for a number reads back as the number: it was found by trying, or it is
the value written out (`toBinary_shortest`).  So each number but a NaN is read back from its text,
and of the NaNs only the positive quiet one (`read_text_iff`).  What is read of any text is a number
or a quiet NaN (`quietNaN_of_read`).
-/

namespace Sift

/-! ## The decimal that is chosen -/

namespace Binary

theorem units_pos {f : Format} {m : Nat} (hm : 0 < m) (h : m < f.infinity) : 0 < f.units m := by
  refine Nat.pos_of_ne_zero fun hzero => ?_
  have hround := Format.round_units h
  rw [hzero, show f.round 0 1 = 0 by simp [Format.round, Format.roundHalfEven]] at hround
  omega

/-- The value of a magnitude, written out. -/
def exact (f : Format) (m : Nat) : Decimal := ⟨f.units m * 5 ^ f.scale, -f.scale⟩

theorem ratio_exact (f : Format) (m : Nat) :
    (exact f m).ratio f.scale = (f.units m * 10 ^ f.scale, 1 * 10 ^ f.scale) := by
  rw [exact, Decimal.ratio_of_nonpos, Nat.one_mul, Nat.mul_assoc, ← Nat.mul_pow]

theorem reach_exact {f : Format} (hf : f = .single ∨ f = .double) {m : Nat} (hm : 0 < m)
    (h : m < f.infinity) : -400 ≤ (exact f m).reach ∧ (exact f m).reach ≤ 400 := by
  have hleast : 10 ^ (f.scale - 401) ≤ 5 ^ f.scale := by
    rcases hf with rfl | rfl <;> decide +kernel
  have hmost : 2 ^ (2 ^ f.exponentBits - 2 + f.fractionBits) * 5 ^ f.scale ≤
      10 ^ (f.scale + 400) := by
    rcases hf with rfl | rfl <;> decide +kernel
  have hfive : 0 < 5 ^ f.scale := Nat.pow_pos (by decide)
  have hlow : 5 ^ f.scale ≤ f.units m * 5 ^ f.scale := Nat.le_mul_of_pos_left _ (units_pos hm h)
  have hhigh := Nat.mul_lt_mul_of_pos_right (Format.units_lt h) hfive
  have hlength : 0 < (Nat.toDigits 10 (f.units m * 5 ^ f.scale)).length :=
    Nat.length_toDigits_pos
  have hle : ∀ k, 0 < k → ((Nat.toDigits 10 (f.units m * 5 ^ f.scale)).length ≤ k ↔
      f.units m * 5 ^ f.scale < 10 ^ k) := fun k => Nat.length_toDigits_le_iff (by decide)
  simp only [Decimal.reach, exact]
  constructor
  · by_contra hshort
    have hlt := (hle (f.scale - 401) (by omega)).mp (by omega)
    omega
  · have hlt := (hle (f.scale + 400) (by omega)).mpr (Nat.lt_of_lt_of_le hhigh hmost)
    omega

theorem toBinary_exact {f : Format} (hf : f = .single ∨ f = .double) {m : Nat} (hm : 0 < m)
    (h : m < f.infinity) : ((exact f m).toBinary f false).magnitude.val = m := by
  obtain ⟨hlow, hhigh⟩ := reach_exact hf hm h
  have hdigits : (exact f m).digits ≠ 0 :=
    Nat.mul_ne_zero (Nat.ne_of_gt (units_pos hm h)) (Nat.ne_of_gt (Nat.pow_pos (by decide)))
  have hten : 0 < 10 ^ f.scale := Nat.pow_pos (by decide)
  rw [Decimal.toBinary, if_neg hdigits, if_neg (by omega), if_neg (by omega), ratio_exact]
  simp only [Decimal.nearest_mul f false _ 1 hten]
  exact Format.round_units h

/-- The decimal that is chosen for a number reads back as the number. -/
theorem toBinary_shortest {f : Format} (hf : f = .single ∨ f = .double) {m : Nat} (hm : 0 < m)
    (h : m < f.infinity) : ((shortest f m).toBinary f false).magnitude.val = m := by
  unfold shortest
  simp only
  cases hfind : List.find? (readsBack f m) _ with
  | some x =>
    have hback : readsBack f m x = true := List.find?_some hfind
    exact of_decide_eq_true hback
  | none => exact toBinary_exact hf hm h

end Binary

/-! ## Reading the text -/

namespace Decimal

/-- A literal with its sign, which is written for negative numbers only. -/
def signed (negative : Bool) (body : List Char) : List Char :=
  if negative then '-' :: body else body

theorem sign_signed (negative : Bool) {body : List Char} (h : ∀ c ∈ body, c ≠ '+' ∧ c ≠ '-') :
    sign (signed negative body) = (negative, body) := by
  cases negative with
  | true => rfl
  | false =>
    show sign body = (false, body)
    unfold sign
    split
    · exact absurd rfl (h '+' List.mem_cons_self).1
    · exact absurd rfl (h '-' List.mem_cons_self).2
    · rfl

theorem read_signed_inf (f : Format) (negative : Bool) :
    read f (String.ofList (signed negative "inf".toList)) = .ok (.infinite f negative) := by
  cases negative <;> rfl

theorem toLower_of_isDigit {c : Char} (h : c.isDigit = true) : c.toLower = c := by
  rw [Char.isDigit, Bool.and_eq_true, decide_eq_true_eq, decide_eq_true_eq] at h
  refine dif_neg fun hupper => ?_
  exact absurd (UInt32.le_trans hupper.1 h.2) (by decide)

section

variable {body : List Char}

theorem not_mem_of_digits (hbody : ∀ c ∈ body, c.isDigit = true ∨ c = '.') {c : Char}
    (hdigit : c.isDigit = false) (hpoint : c ≠ '.') : c ∉ body := by
  intro hc
  rcases hbody c hc with h | h
  · rw [h] at hdigit
    cases hdigit
  · exact hpoint h

theorem map_toLower_of_digits (hbody : ∀ c ∈ body, c.isDigit = true ∨ c = '.') :
    body.map Char.toLower = body := by
  refine (List.map_congr_left fun c hc => ?_).trans (List.map_id body)
  rcases hbody c hc with h | rfl
  · exact toLower_of_isDigit h
  · rfl

theorem read_signed {f : Format} {negative : Bool} {x : Decimal}
    (hbody : ∀ c ∈ body, c.isDigit = true ∨ c = '.') (hread : readDigits body = some x) :
    read f (String.ofList (signed negative body)) = .ok (x.toBinary f negative) := by
  have hsign : ∀ c ∈ body, c ≠ '+' ∧ c ≠ '-' := by
    intro c hc
    refine ⟨?_, ?_⟩ <;> rintro rfl <;> exact not_mem_of_digits hbody (by decide) (by decide) hc
  have hempty : ¬ (String.ofList (signed negative body)).isEmpty = true := by
    rw [String.isEmpty_iff, String.ofList_eq_empty_iff]
    cases negative with
    | true => exact List.cons_ne_nil _ _
    | false =>
      rintro rfl
      cases hread
  -- all words have an `n` in them
  have hword : ∀ {word : String}, 'n' ∈ word.toList → String.ofList body ≠ word := by
    rintro _ hn rfl
    rw [String.toList_ofList] at hn
    exact not_mem_of_digits hbody (by decide) (by decide) hn
  rw [read, if_neg hempty, String.toList_ofList, sign_signed negative hsign]
  simp only [map_toLower_of_digits hbody]
  split
  · rename_i h
    exact absurd h (hword (by decide))
  · rename_i h
    exact absurd h (hword (by decide))
  · rename_i h
    exact absurd h (hword (by decide))
  · rw [hread]

end

end Decimal

/-- Each number but a NaN is read back from its text. -/
theorem Binary.read_text {f : Format} (hf : f = .single ∨ f = .double) {x : Binary f}
    (h : x.isNaN = false) : Decimal.read f x.text = .ok x := by
  obtain ⟨negative, m⟩ := x
  have hle : m.val ≤ f.infinity := by simpa [isNaN] using h
  by_cases hinf : m.val = f.infinity
  · have htext : text ⟨negative, m⟩ = String.ofList (Decimal.signed negative "inf".toList) := by
      simp [text, h, isInfinite, hinf, Decimal.signed]
    have hm : m = ⟨f.infinity, f.infinity_lt_span⟩ := Fin.ext hinf
    rw [htext, Decimal.read_signed_inf, hm]
    rfl
  · by_cases hzero : m.val = 0
    · have htext : text ⟨negative, m⟩ = String.ofList (Decimal.signed negative ['0']) := by
        have hne : ¬ 0 = f.infinity := hzero ▸ hinf
        simp [text, h, isInfinite, hzero, hne, Decimal.signed]
      have hm : m = ⟨0, f.span_pos⟩ := Fin.ext hzero
      have hdigit : ∀ c ∈ ['0'], c.isDigit = true ∨ c = '.' :=
        List.forall_mem_singleton.mpr (.inl rfl)
      rw [htext, Decimal.read_signed hdigit (show _ = some ⟨0, 0⟩ from rfl), hm]
      rfl
    · have htext : text ⟨negative, m⟩ =
          String.ofList (Decimal.signed negative (shortest f m).positional) := by
        simp [text, h, isInfinite, hinf, hzero, Decimal.signed]
      have hback := toBinary_shortest hf (Nat.pos_of_ne_zero hzero) (Nat.lt_of_le_of_ne hle hinf)
      have hdigits : (shortest f m).digits ≠ 0 := by
        intro hnone
        rw [Decimal.toBinary, if_pos hnone] at hback
        exact hzero hback.symm
      obtain ⟨y, hread, hsame⟩ := Decimal.exists_readDigits_same hdigits
      rw [htext, Decimal.read_signed (fun c => Decimal.mem_positional) hread, hsame,
        Decimal.toBinary_sign]
      exact congrArg _ (congrArg (Binary.mk negative) (Fin.ext hback))

/-! ## NaN -/

theorem Binary.isNaN_infinite (f : Format) (negative : Bool) :
    (infinite f negative).isNaN = false :=
  decide_eq_false (Nat.lt_irrefl _)

theorem Binary.isNaN_zero (f : Format) (negative : Bool) : (zero f negative).isNaN = false :=
  decide_eq_false (Nat.not_lt_zero _)

theorem Decimal.isNaN_toBinary (f : Format) (negative : Bool) (x : Decimal) :
    (x.toBinary f negative).isNaN = false := by
  unfold toBinary
  split
  · exact Binary.isNaN_zero f negative
  · split
    · exact Binary.isNaN_infinite f negative
    · split
      · exact Binary.isNaN_zero f negative
      · exact decide_eq_false (Nat.not_lt.mpr (Nat.min_le_right _ _))

/-- The only NaN that a literal stands for is the quiet one, with the sign of the literal. -/
theorem Binary.quietNaN_of_read {f : Format} {text : String} {x : Binary f}
    (h : Decimal.read f text = .ok x) (hnan : x.isNaN = true) : x = .quietNaN f x.negative := by
  unfold Decimal.read at h
  split at h
  · cases h
  · simp only at h
    split at h
    · rw [← Except.ok.inj h, isNaN_infinite] at hnan
      cases hnan
    · rw [← Except.ok.inj h, isNaN_infinite] at hnan
      cases hnan
    · rw [← Except.ok.inj h]
      rfl
    · split at h
      · rw [← Except.ok.inj h, Decimal.isNaN_toBinary] at hnan
        cases hnan
      · cases h

/-- The sign of a NaN is not written, so what is read is the positive one. -/
theorem Binary.read_text_of_isNaN {f : Format} {x : Binary f} (h : x.isNaN = true) :
    Decimal.read f x.text = .ok (.quietNaN f false) := by
  rw [text, if_pos h]
  rfl

/-- The only NaN that is read back from its text is the positive quiet one. -/
theorem Binary.read_text_iff {f : Format} (hf : f = .single ∨ f = .double) {x : Binary f} :
    Decimal.read f x.text = .ok x ↔ (x.isNaN = true → x = .quietNaN f false) := by
  cases hnan : x.isNaN with
  | false => simp [read_text hf hnan]
  | true =>
    rw [read_text_of_isNaN hnan, Except.ok.injEq]
    exact ⟨fun h _ => h.symm, fun h => (h rfl).symm⟩

end Sift
