import Mathlib.Algebra.GroupWithZero.Nat
import Sift.Time.Calendar

/-!
# Days and dates

`ofDays` finds the date of a day: the year that the day lies in (`yearOf_spec`), then the month
(`monthAndDay_spec`).  So the date exists, and counting its days gives the day back
(`toDays_ofDays`).
-/

namespace Sift
namespace Calendar

theorem isLeap_iff {year : Int} :
    isLeap year = true ↔ year % 4 = 0 ∧ (year % 100 ≠ 0 ∨ year % 400 = 0) := by
  simp [isLeap]

/-- The days of a year. -/
def yearLength (year : Int) : Nat := if isLeap year then 366 else 365

theorem daysBeforeYear_succ (year : Int) :
    daysBeforeYear (year + 1) = daysBeforeYear year + yearLength year := by
  simp only [daysBeforeYear, yearLength]
  split <;> rename_i hleap <;> rw [isLeap_iff] at hleap <;> omega

/-- The estimate of a year is off by one at most. -/
theorem daysBeforeYear_guess (n : Int) :
    daysBeforeYear (n * 400 / 146097 + 1 - 1) ≤ n ∧
      n < daysBeforeYear (n * 400 / 146097 + 1 + 1 + 1) := by
  simp only [daysBeforeYear]
  omega

/-- A day lies in its year. -/
theorem yearOf_spec (n : Int) :
    daysBeforeYear (yearOf n) ≤ n ∧ n < daysBeforeYear (yearOf n + 1) := by
  obtain ⟨hlow, hhigh⟩ := daysBeforeYear_guess n
  unfold yearOf
  generalize n * 400 / 146097 + 1 = guess at hlow hhigh ⊢
  simp only
  split
  · rename_i h
    exact ⟨hlow, by rwa [Int.sub_add_cancel]⟩
  · split
    · rename_i h
      exact ⟨h, hhigh⟩
    · rename_i h h'
      exact ⟨Int.not_lt.mp h, Int.not_le.mp h'⟩

/-! ## Months -/

theorem sum_monthLengths (year : Int) : (monthLengths year).sum = yearLength year := by
  unfold monthLengths yearLength
  cases isLeap year <;> rfl

/-- The day `k` days after the start of some months lies in one of them. -/
theorem monthAndDay_spec {lengths : List Nat} {k : Nat} (h : k < lengths.sum) (first : Nat) :
    ∃ i length day, monthAndDay lengths first k = (first + i, day) ∧ lengths[i]? = some length ∧
      1 ≤ day ∧ day ≤ length ∧ (lengths.take i).sum + (day - 1) = k := by
  induction lengths generalizing k first with
  | nil => simp at h
  | cons n lengths ih =>
    unfold monthAndDay
    split
    · rename_i hk
      exact ⟨0, n, k + 1, by simp, by simp, by omega, by omega, by simp⟩
    · rw [List.sum_cons] at h
      obtain ⟨i, length, day, heq, hlength, hday, hle, hsum⟩ :=
        ih (k := k - n) (by omega) (first + 1)
      refine ⟨i + 1, length, day, ?_, by simpa using hlength, hday, hle, ?_⟩
      · rw [heq]
        congr 1
        omega
      · rw [List.take_succ_cons, List.sum_cons]
        omega

/-! ## Dates -/

namespace Date

theorem daysBefore_eq (d : Date) :
    d.daysBefore = ((monthLengths d.year).take (d.month - 1)).sum + (d.day - 1) := by
  have hfold : ∀ (ns : List Nat) (n : Nat), ns.foldl (fun n length => n + length) n = ns.sum + n := by
    intro ns
    induction ns with
    | nil => simp
    | cons m ns ih =>
      intro n
      rw [List.foldl_cons, ih, List.sum_cons]
      omega
  exact hfold _ _

theorem exists_ofDays (days : Int) :
    ∃ i length day, ofDays days = ⟨yearOf (days + epoch), 1 + i, day⟩ ∧
      (monthLengths (yearOf (days + epoch)))[i]? = some length ∧ 1 ≤ day ∧ day ≤ length ∧
      daysBeforeYear (yearOf (days + epoch)) +
        (((monthLengths (yearOf (days + epoch))).take i).sum + (day - 1) : Nat) = days + epoch := by
  obtain ⟨hlow, hhigh⟩ := yearOf_spec (days + epoch)
  rw [daysBeforeYear_succ] at hhigh
  generalize hyear : yearOf (days + epoch) = year at hlow hhigh ⊢
  obtain ⟨k, hk⟩ := Int.eq_ofNat_of_zero_le (show 0 ≤ days + epoch - daysBeforeYear year by omega)
  have hlt : k < (monthLengths year).sum := by
    rw [sum_monthLengths]
    omega
  obtain ⟨i, length, day, heq, hlength, hday, hle, hsum⟩ := monthAndDay_spec hlt 1
  refine ⟨i, length, day, ?_, hlength, hday, hle, ?_⟩
  · simp only [ofDays, hyear, hk, Int.toNat_natCast, heq]
  · rw [hsum]
    omega

theorem valid_ofDays (days : Int) : (ofDays days).Valid := by
  obtain ⟨i, length, day, heq, hlength, hday, hle, -⟩ := exists_ofDays days
  rw [heq]
  refine ⟨by simp, hday, length, ?_, hle⟩
  simpa using hlength

theorem toDays_ofDays (days : Int) : (ofDays days).toDays = days := by
  obtain ⟨i, length, day, heq, -, -, -, hsum⟩ := exists_ofDays days
  rw [toDays, daysBefore_eq, heq]
  simp only [Nat.add_sub_cancel_left]
  omega

theorem Valid.le {d : Date} (h : d.Valid) : d.month ≤ 12 ∧ d.day ≤ 31 := by
  obtain ⟨-, -, n, hn, hle⟩ := h
  have hlengths : ∀ n ∈ monthLengths d.year, n ≤ 31 := by
    simp only [monthLengths, List.forall_mem_cons]
    split <;> simp
  have hindex := (List.getElem?_eq_some_iff.mp hn).1
  have hlength : (monthLengths d.year).length = 12 := rfl
  have hday := hlengths n (List.mem_of_getElem? hn)
  omega

/-- A date lies in its year. -/
theorem Valid.daysBefore_lt {d : Date} (h : d.Valid) : d.daysBefore < 366 := by
  obtain ⟨-, hday, n, hn, hle⟩ := h
  have hsplit : ((monthLengths d.year).take (d.month - 1)).sum +
      ((monthLengths d.year).drop (d.month - 1)).sum = yearLength d.year := by
    rw [← List.sum_append, List.take_append_drop, sum_monthLengths]
  have hyear : yearLength d.year ≤ 366 := by
    unfold yearLength
    split <;> omega
  obtain ⟨hindex, hn⟩ := List.getElem?_eq_some_iff.mp hn
  rw [List.drop_eq_getElem_cons hindex, hn, List.sum_cons] at hsplit
  rw [daysBefore_eq]
  omega

end Date
end Calendar
end Sift
