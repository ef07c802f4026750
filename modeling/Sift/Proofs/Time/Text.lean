import Sift.Proofs.Time.Calendar
import Sift.Proofs.Time.Form

/-!
# Timestamps in text

The text of a timestamp has the first form, and reads back as the timestamp if its year has four
digits (`read?_text`).  A longer year has a sign in front of it, which no number of the first form
has, and the `Z` at the end keeps the text from the other forms (`read?_text_eq_none`).  It is the
text of one timestamp all the same (`text_injective`).
-/

namespace Sift
namespace Timestamp

/-- The year in UTC. -/
def year (t : Timestamp) : Int := (Calendar.Date.ofDays (t.seconds / 86400)).year

/-! ## Parts of the first form -/

theorem fixedDigits_padded {width n : Nat} (hwidth : 0 < width) (h : n < 10 ^ width)
    (rest : List Char) : fixedDigits width (Text.padded width n ++ rest) = some (n, rest) := by
  have hfixed : Fixed width (Text.padded width n) :=
    ⟨fun c => Text.isDigit_of_mem_padded, Text.length_padded hwidth h⟩
  rw [hfixed.read, Text.digitsValue_padded]

theorem fixedDigits_of_sign {width : Nat} (hwidth : 0 < width) {c : Char}
    (hc : c.isDigit = false) (rest : List Char) : fixedDigits width (c :: rest) = none := by
  obtain ⟨width, rfl⟩ := Nat.exists_eq_succ_of_ne_zero (Nat.ne_of_gt hwidth)
  simp [fixedDigits, hc]

theorem dateEnd_T (rest : List Char) : dateEnd ('T' :: rest) = some rest := rfl

theorem zone_Z (rest : List Char) : zone ('Z' :: rest) = some (0, rest) := rfl

theorem fraction_padded {width n : Nat} (hwidth : 0 < width ∧ width ≤ 9) (h : n < 10 ^ width)
    (rest : List Char) :
    fraction ('.' :: (Text.padded width n ++ 'Z' :: rest)) =
      some (n * 10 ^ (9 - width), 'Z' :: rest) := by
  have hlength := Text.length_padded hwidth.1 h
  have hne : Text.padded width n ≠ [] := List.ne_nil_of_length_pos (by omega)
  have hpoint := Fraction.point (fun c => Text.isDigit_of_mem_padded) hne
  have hkept : (Text.padded width n).take 9 = Text.padded width n :=
    List.take_of_length_le (by omega)
  have hZ : NoDigit ('Z' :: rest) := noDigit_cons (by decide)
  have hread := hpoint.read hZ (by simp)
  rwa [nanosOf, Text.filled, hkept, hlength, Text.digitsValue_padded] at hread

theorem fraction_fractionText {nanos : Nat} (h : nanos < 1000000000) (rest : List Char) :
    fraction (fractionText nanos ++ 'Z' :: rest) = some (nanos, 'Z' :: rest) := by
  unfold fractionText
  split
  · rename_i hzero
    rw [hzero]
    rfl
  · split
    · rename_i hmillis
      rw [List.cons_append, fraction_padded (by decide) (by omega)]
      congr 2
      omega
    · split
      · rw [List.cons_append, fraction_padded (by decide) (by omega)]
        congr 2
        omega
      · rw [List.cons_append, fraction_padded (by decide) (by omega)]
        congr 2
        omega

/-! ## The text of a timestamp -/

/-- The date and the time in UTC, with a leap second as second 60. -/
def utc (t : Timestamp) : LocalTime :=
  let time := (t.seconds % 86400).toNat
  ⟨Calendar.Date.ofDays (t.seconds / 86400), time / 3600, time / 60 % 60,
    time % 60 + t.nanos / 1000000000, t.nanos % 1000000000, 0⟩

theorem toList_text (t : Timestamp) :
    t.text.toList = yearText t.utc.date.year ++ '-' :: (Text.padded 2 t.utc.date.month ++
      '-' :: (Text.padded 2 t.utc.date.day ++ 'T' :: (Text.padded 2 t.utc.hour ++
      ':' :: (Text.padded 2 t.utc.minute ++ ':' :: (Text.padded 2 t.utc.second ++
      (fractionText t.utc.nanos ++ ['Z'])))))) := by
  simp [text, utc]

theorem toTimestamp_utc {t : Timestamp} (h : t.WellFormed) : t.utc.toTimestamp = t := by
  obtain ⟨seconds, nanos⟩ := t
  obtain ⟨hnanos, hleap⟩ := h
  simp only [LocalTime.toTimestamp, utc, Calendar.Date.toDays_ofDays] at hnanos hleap ⊢
  split
  · congr 1 <;> omega
  · congr 1 <;> omega

theorem valid_utc {t : Timestamp} (h : t.WellFormed) (hyear : 0 ≤ t.year ∧ t.year ≤ 9999) :
    t.utc.Valid := by
  obtain ⟨hnanos, hleap⟩ := h
  refine ⟨Calendar.Date.valid_ofDays _, ?_, ?_, ?_, ?_, ?_⟩ <;>
    simp only [utc] <;> simp only [year] at hyear <;> omega

theorem readZoned_text {t : Timestamp} (h : t.WellFormed) (hyear : 0 ≤ t.year ∧ t.year ≤ 9999) :
    readZoned t.text.toList = some t.utc := by
  have hvalid := valid_utc h hyear
  obtain ⟨hmonth, hday⟩ := hvalid.1.le
  obtain ⟨-, -, -, hhour, hminute, hsecond⟩ := hvalid
  have hnanos : t.utc.nanos < 1000000000 := Nat.mod_lt _ (by decide)
  have hyearText : yearText t.utc.date.year = Text.padded 4 t.utc.date.year.toNat := if_pos hyear
  have hyearNat : (t.utc.date.year.toNat : Int) = t.utc.date.year := Int.toNat_of_nonneg hyear.1
  have hyearLt : t.utc.date.year.toNat < 10 ^ 4 := by
    have hle : t.utc.date.year ≤ 9999 := hyear.2
    omega
  have htwo : ∀ n < 100, ∀ rest, fixedDigits 2 (Text.padded 2 n ++ rest) = some (n, rest) :=
    fun n hn => fixedDigits_padded (show 0 < 2 by decide) hn
  rw [toList_text, hyearText]
  refine (bind_of_eq_some (fixedDigits_padded (by decide) hyearLt _)).trans ?_
  refine (bind_of_eq_some (mark_cons _)).trans ?_
  refine (bind_of_eq_some (htwo t.utc.date.month (by omega) _)).trans ?_
  refine (bind_of_eq_some (mark_cons _)).trans ?_
  refine (bind_of_eq_some (htwo t.utc.date.day (by omega) _)).trans ?_
  refine (bind_of_eq_some (dateEnd_T _)).trans ?_
  refine (bind_of_eq_some (htwo t.utc.hour (by omega) _)).trans ?_
  refine (bind_of_eq_some (mark_cons _)).trans ?_
  refine (bind_of_eq_some (htwo t.utc.minute (by omega) _)).trans ?_
  refine (bind_of_eq_some (mark_cons _)).trans ?_
  refine (bind_of_eq_some (htwo t.utc.second (by omega) _)).trans ?_
  refine (bind_of_eq_some (fraction_fractionText hnanos _)).trans ?_
  refine (bind_of_eq_some (zone_Z _)).trans ?_
  rw [hyearNat]
  rfl

/-- The text of a timestamp in a year of four digits reads back as the timestamp. -/
theorem read?_text {t : Timestamp} (h : t.WellFormed) (hyear : 0 ≤ t.year ∧ t.year ≤ 9999) :
    read? t.text = some t := by
  have hZ : 'Z' ∈ t.text.toList := by simp [toList_text]
  rw [read?_eq, readLocal?_of_Z hZ, readZoned_text h hyear, Option.filter_some,
    if_pos (decide_eq_true (valid_utc h hyear)), Option.map_some, toTimestamp_utc h]

/-- The text of a timestamp in any other year is in none of the forms. -/
theorem read?_text_eq_none {t : Timestamp} (hyear : ¬ (0 ≤ t.year ∧ t.year ≤ 9999)) :
    read? t.text = none := by
  have hZ : 'Z' ∈ t.text.toList := by simp [toList_text]
  have hyearText : yearText t.utc.date.year = _ := if_neg hyear
  have hzoned : readZoned t.text.toList = none := by
    rw [toList_text, hyearText, readZoned, List.cons_append]
    split <;> rw [fixedDigits_of_sign (by decide) (by decide)] <;> rfl
  rw [read?_eq, readLocal?_of_Z hZ, hzoned]
  rfl

/-! ## Years of any length

In front of its `Z` the text has the second form, which takes a year with a sign too.  So the text
shows all of the timestamp, also where it does not read back. -/

theorem year_yearText (year : Int) : Year (yearText year) year := by
  have hdigits : ∀ n, ∀ c ∈ Text.padded 4 n, c.isDigit = true := fun n c =>
    Text.isDigit_of_mem_padded
  have hne : ∀ n, Text.padded 4 n ≠ [] := fun n hnil => by
    have hempty := (List.append_eq_nil_iff.mp hnil).2
    exact Nat.toDigits_ne_nil hempty
  unfold yearText
  split
  · rename_i hyear
    have hlength : (Text.padded 4 year.toNat).length = 4 :=
      Text.length_padded (by decide) (by omega)
    have hshort : Short 4 ([] ++ Text.padded 4 year.toNat) _ :=
      .mk (List.forall_mem_nil _) (hdigits _) (hne _) (Nat.le_of_eq hlength)
    rw [Text.digitsValue_padded] at hshort
    have hread := Year.unsigned hshort
    rwa [Int.toNat_of_nonneg hyear.1] at hread
  · split
    · rename_i hneg
      have hread := Year.minus (List.forall_mem_nil _) (hdigits year.natAbs) (hne _)
      rw [Text.digitsValue_padded] at hread
      have habs : -(year.natAbs : Int) = year := by omega
      rwa [habs] at hread
    · rename_i hpos
      have hread := Year.plus (List.forall_mem_nil _) (hdigits year.natAbs) (hne _)
      rw [Text.digitsValue_padded] at hread
      have habs : (year.natAbs : Int) = year := by omega
      rwa [habs] at hread

theorem short_padded {n : Nat} (h : n < 100) : Short 2 (Text.padded 2 n) n := by
  have hfixed : Fixed 2 (Text.padded 2 n) :=
    ⟨fun c => Text.isDigit_of_mem_padded, Text.length_padded (by decide) h⟩
  have hshort := hfixed.short (by decide)
  rwa [Text.digitsValue_padded] at hshort

/-- The date and the time in front of the zone. -/
def readUtc (cs : List Char) : Option LocalTime := do
  let (t, cs) ← readMinute cs
  let cs ← mark ':' cs
  let (second, cs) ← shortNumber 2 cs
  let (nanos, _) ← fraction cs
  return { t with second, nanos }

theorem readUtc_text {t : Timestamp} (h : t.WellFormed) : readUtc t.text.toList = some t.utc := by
  obtain ⟨hmonth, hday⟩ := (Calendar.Date.valid_ofDays (t.seconds / 86400)).le
  have hhour : t.utc.hour < 100 := by
    simp only [utc]
    omega
  have hminute : t.utc.minute < 100 := by
    simp only [utc]
    omega
  have hsecond : t.utc.second < 100 := by
    have hnanos := h.nanos_lt
    simp only [utc]
    omega
  have hnanos : t.utc.nanos < 1000000000 := Nat.mod_lt _ (by decide)
  have hstart := ToMinute.mk (year_yearText t.utc.date.year)
    (short_padded (show t.utc.date.month < 100 by simp only [utc]; omega))
    (short_padded (show t.utc.date.day < 100 by simp only [utc]; omega)) (short_padded hhour)
    (short_padded hminute)
  have hcolon : NoDigit (':' :: (Text.padded 2 t.utc.second ++
      (fractionText t.utc.nanos ++ ['Z']))) := noDigit_cons (by decide)
  have hread := hstart.read hcolon
  simp only [List.append_assoc, List.cons_append] at hread
  have hfraction : NoDigit (fractionText t.utc.nanos ++ ['Z']) := by
    unfold fractionText
    split
    · exact noDigit_cons (by decide)
    · split
      · exact noDigit_cons (by decide)
      · split <;> exact noDigit_cons (by decide)
  rw [toList_text, readUtc, hread]
  simp only [Option.bind_eq_bind, Option.bind_some, mark_cons,
    (short_padded hsecond).read hfraction, fraction_fractionText hnanos]
  rfl

/-- Two timestamps with one text are one. -/
theorem text_injective {t u : Timestamp} (ht : t.WellFormed) (hu : u.WellFormed)
    (h : t.text = u.text) : t = u := by
  have hutc := readUtc_text ht
  rw [h, readUtc_text hu, Option.some.injEq] at hutc
  rw [← toTimestamp_utc ht, ← hutc, toTimestamp_utc hu]

end Timestamp
end Sift
