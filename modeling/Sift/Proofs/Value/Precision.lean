import Sift.Bson
import Sift.Proofs.Time.Calendar
import Sift.Proofs.Time.Form
import Sift.Value.Coerce

/-!
# Fractions of a second

A fraction is held in milliseconds exactly or not at all, as far as its first nine digits go.  A
digit between the third and the tenth that is not zero is refused; if there is none, the stored time
has the milliseconds that these digits state (`coerce_fraction`).  Digits from the tenth on are
dropped unseen, so a fraction that differs from whole milliseconds only there is accepted all the
same (`tenth_digit_dropped`).
-/

namespace Sift

namespace Timestamp

/-! ## Milliseconds from digits -/

/-- The fraction with these digits is a whole number of milliseconds. -/
def InMillis (ds : List Char) : Prop := ∀ c ∈ ds.drop 3, c = '0'

instance (ds : List Char) : Decidable (InMillis ds) :=
  decidable_of_iff ((ds.drop 3).all fun c => c = '0') (by simp [InMillis])

/-- The fraction with these digits is exactly `millis` thousandths. -/
def States (ds : List Char) (millis : Nat) : Prop :=
  millis * 10 ^ ds.length = Text.digitsValue ds * 1000

/-- The first three digits, as thousandths. -/
def millisOf (ds : List Char) : Nat := Text.filled 3 (ds.take 3)

theorem millisOf_take (ds : List Char) : millisOf (ds.take 9) = millisOf ds := by
  rw [millisOf, List.take_take]
  rfl

section

variable {ds : List Char} (hdigits : ∀ c ∈ ds, c.isDigit = true)
include hdigits

theorem states_millisOf (h : InMillis ds) : States ds (millisOf ds) := by
  have hlast : ∀ c ∈ ds.drop 3, c.isDigit = true := fun c hc =>
    hdigits c (List.mem_of_mem_drop hc)
  have hzero := (Text.digitsValue_eq_zero_iff hlast).mpr h
  have hfilled := Text.filled_mul (List.length_take_le 3 ds)
  have hvalue := Text.digitsValue_take_drop ds 3
  have hpow : 10 ^ ds.length = 10 ^ (ds.take 3).length * 10 ^ (ds.drop 3).length := by
    rw [← Nat.pow_add, ← List.length_append, List.take_append_drop]
  calc millisOf ds * 10 ^ ds.length
      = Text.filled 3 (ds.take 3) * 10 ^ (ds.take 3).length * 10 ^ (ds.drop 3).length := by
        rw [millisOf, hpow, Nat.mul_assoc]
    _ = 10 ^ (ds.drop 3).length * Text.digitsValue (ds.take 3) * 1000 := by
        rw [hfilled]
        ring
    _ = Text.digitsValue ds * 1000 := by rw [hvalue, hzero, Nat.add_zero]

theorem millisOf_lt : millisOf ds < 1000 :=
  Text.filled_lt (fun c hc => hdigits c (List.mem_of_mem_take hc)) (List.length_take_le 3 ds)

/-- The nanoseconds are the milliseconds of the first three digits and what the next six say, which
is nothing if they are zeros. -/
theorem exists_nanosOf_eq :
    ∃ rest < 1000000, nanosOf ds = millisOf ds * 1000000 + rest ∧
      (rest = 0 ↔ InMillis (ds.take 9)) := by
  have hkept : ∀ c ∈ (ds.take 9).drop 3, c.isDigit = true := fun c hc =>
    hdigits c (List.mem_of_mem_take (List.mem_of_mem_drop hc))
  have hnine := List.length_take_le 9 ds
  have hsix : ((ds.take 9).drop 3).length ≤ 6 := by
    rw [List.length_drop]
    omega
  refine ⟨_, Text.filled_lt hkept hsix, ?_, Text.filled_eq_zero_iff hkept⟩
  rw [nanosOf, ← millisOf_take]
  exact Text.filled_take_drop (m := 3) (n := 6) hnine

end

/-! ## Milliseconds of a date and time -/

section

variable {t : LocalTime}

/-- The fraction is counted on its own, also behind a second 60. -/
theorem toMillis_nanos (ht : t.nanos = 0) (nanos : Nat) :
    ({ t with nanos } : LocalTime).toTimestamp.toMillis =
        t.toTimestamp.toMillis + (nanos / 1000000 : Nat) ∧
      ({ t with nanos } : LocalTime).toTimestamp.nanos % 1000000 = nanos % 1000000 ∧
      t.toTimestamp.toMillis % 1000 = 0 := by
  by_cases hleap : t.second = 60
  · simp only [LocalTime.toTimestamp, toMillis, ht, if_pos hleap]
    omega
  · simp only [LocalTime.toTimestamp, toMillis, ht, if_neg hleap, true_and]
    omega

theorem toMillis_range (hvalid : t.Valid) (hoffset : -86400 < t.offset ∧ t.offset < 86400)
    (ht : t.nanos = 0) :
    -10000000000000000 < t.toTimestamp.toMillis ∧ t.toTimestamp.toMillis < 10000000000000000 := by
  obtain ⟨hdate, hlow, hhigh, hhour, hminute, hsecond⟩ := hvalid
  have hday := hdate.daysBefore_lt
  have hdays : -97000000 < t.date.toDays ∧ t.date.toDays < 97000000 := by
    simp only [Calendar.Date.toDays, Calendar.daysBeforeYear, Calendar.epoch]
    omega
  simp only [LocalTime.toTimestamp, toMillis, ht]
  split
  · dsimp only
    omega
  · dsimp only
    omega

end

end Timestamp

namespace ScalarType

open Timestamp

variable {text : String} {t : LocalTime} {ds : List Char}

theorem coerce_of_read?_eq_none (h : Timestamp.read? text = none) :
    timestamp.coerce text = .error (.coercion text timestamp .notTimestamp) := by
  simp only [coerce, read, readTimestamp, h]
  rfl

theorem coerce_of_read?_eq_some {time : Timestamp} (h : Timestamp.read? text = some time) :
    timestamp.coerce text =
      if time.nanos % 1000000 = 0 then .ok (.timestamp time)
      else .error (.coercion text timestamp .tooPrecise) := by
  simp only [coerce, read, readTimestamp, h]
  split <;> rfl

theorem coerce_of_writes (h : Writes text.toList t ds) :
    timestamp.coerce text =
      if t.Valid then
        if InMillis (ds.take 9) then
          .ok (.timestamp ({ t with nanos := nanosOf ds } : LocalTime).toTimestamp)
        else .error (.coercion text timestamp .tooPrecise)
      else .error (.coercion text timestamp .notTimestamp) := by
  have hread := congrArg (Option.map LocalTime.toTimestamp) (readLocal?_of_writes h)
  rw [← read?_eq] at hread
  by_cases hvalid : t.Valid
  · rw [if_pos hvalid] at hread ⊢
    have hnanos := (toMillis_nanos h.nanos (nanosOf ds)).2.1
    rw [coerce_of_read?_eq_some hread]
    obtain ⟨rest, hlt, hsum, hzero⟩ := exists_nanosOf_eq h.isDigit
    refine if_congr ?_ rfl rfl
    rw [hnanos, ← hzero]
    omega
  · rw [if_neg hvalid] at hread ⊢
    exact coerce_of_read?_eq_none hread

theorem exists_writes_of_coerce {v : TypedValue} (h : timestamp.coerce text = .ok v) :
    ∃ t ds, Writes text.toList t ds ∧ t.Valid := by
  cases hread : Timestamp.read? text with
  | none =>
    rw [coerce_of_read?_eq_none hread] at h
    cases h
  | some time =>
    rw [read?_eq] at hread
    obtain ⟨u, hlocal, -⟩ := Option.map_eq_some_iff.mp hread
    obtain ⟨t, ds, hwrites, hvalid, -⟩ := exists_writes_of_readLocal? hlocal
    exact ⟨t, ds, hwrites, hvalid⟩

/-- The stored time of a date, a time and a fraction that are read. -/
theorem exists_stored (h : Writes text.toList t ds) (hvalid : t.Valid) :
    let time := ({ t with nanos := nanosOf ds } : LocalTime).toTimestamp
    ∃ millis, (TypedValue.timestamp time).toBson = .datetime millis ∧
      millis.toInt = t.toTimestamp.toMillis + millisOf ds ∧ millis.toInt % 1000 = millisOf ds := by
  obtain ⟨hmillis, -, hseconds⟩ := toMillis_nanos h.nanos (nanosOf ds)
  obtain ⟨hlow, hhigh⟩ := toMillis_range hvalid h.offset_lt h.nanos
  obtain ⟨rest, hlt, hsum, -⟩ := exists_nanosOf_eq h.isDigit
  have hless := millisOf_lt h.isDigit
  have hdiv : nanosOf ds / 1000000 = millisOf ds := by omega
  rw [hdiv] at hmillis
  refine ⟨_, rfl, ?_⟩
  rw [Int64.toInt_ofInt_of_le (by omega) (by omega), hmillis]
  exact ⟨rfl, by omega⟩

/-- A text is a timestamp if it is in one of the forms, its date and time exist and the fraction, as
far as its first nine digits go, is a whole number of milliseconds.  The stored time then has these
milliseconds. -/
theorem coerce_fraction (text : String) :
    (∀ v, timestamp.coerce text = .ok v → ∃ t ds, Writes text.toList t ds ∧ t.Valid) ∧
    ∀ t ds, Writes text.toList t ds →
      (¬ t.Valid → timestamp.coerce text = .error (.coercion text timestamp .notTimestamp)) ∧
      (t.Valid → ¬ InMillis (ds.take 9) →
        timestamp.coerce text = .error (.coercion text timestamp .tooPrecise)) ∧
      (t.Valid → InMillis (ds.take 9) → ∃ value millis m,
        timestamp.coerce text = .ok (.timestamp value) ∧
        (TypedValue.timestamp value).toBson = .datetime millis ∧
        millis.toInt = t.toTimestamp.toMillis + (m : Nat) ∧ millis.toInt % 1000 = m ∧
        States (ds.take 9) m ∧ (InMillis ds → States ds m)) := by
  refine ⟨fun v => exists_writes_of_coerce, fun t ds hwrites => ?_⟩
  have hcoerce := coerce_of_writes hwrites
  refine ⟨fun hinvalid => ?_, fun hvalid hfine => ?_, fun hvalid hmillis => ?_⟩
  · rw [hcoerce, if_neg hinvalid]
  · rw [hcoerce, if_pos hvalid, if_neg hfine]
  · rw [if_pos hvalid, if_pos hmillis] at hcoerce
    obtain ⟨millis, hbson, hsum, hmod⟩ := exists_stored hwrites hvalid
    have hkept : ∀ c ∈ ds.take 9, c.isDigit = true := fun c hc =>
      hwrites.isDigit c (List.mem_of_mem_take hc)
    have hstates := states_millisOf hkept hmillis
    rw [millisOf_take] at hstates
    exact ⟨_, millis, millisOf ds, hcoerce, hbson, hsum, hmod, hstates,
      states_millisOf hwrites.isDigit⟩

/-- A quarter of a second into a leap second, and half a millisecond more. -/
theorem coerce_fraction_leapSecond :
    let t : LocalTime := ⟨⟨2016, 12, 31⟩, 23, 59, 60, 0, 0⟩
    let text := "2016-12-31T23:59:60.25Z"
    let finer := "2016-12-31T23:59:60.2505Z"
    Writes text.toList t ['2', '5'] ∧ Writes finer.toList t ['2', '5', '0', '5'] ∧ t.Valid ∧
    (∃ value millis m, timestamp.coerce text = .ok (.timestamp value) ∧
      (TypedValue.timestamp value).toBson = .datetime millis ∧
      millis.toInt = t.toTimestamp.toMillis + (m : Nat) ∧ millis.toInt % 1000 = m ∧
      States ['2', '5'] m) ∧
    timestamp.coerce finer = .error (.coercion finer timestamp .tooPrecise) := by
  intro t text finer
  have hparts : ∀ (text : String) (ds : List Char), (∀ c ∈ ds, c.isDigit = true) → ds ≠ [] →
      text.toList = "2016-12-31T23:59:60.".toList ++ ds ++ ['Z'] → Writes text.toList t ds := by
    intro text ds hdigits hne htext
    rw [htext]
    have hpoint := Fraction.point hdigits hne
    have hyear : Fixed 4 ['2', '0', '1', '6'] := ⟨List.all_eq_true.mp rfl, rfl⟩
    have hmonth : Fixed 2 ['1', '2'] := ⟨List.all_eq_true.mp rfl, rfl⟩
    have hday : Fixed 2 ['3', '1'] := ⟨List.all_eq_true.mp rfl, rfl⟩
    have hhour : Fixed 2 ['2', '3'] := ⟨List.all_eq_true.mp rfl, rfl⟩
    have hminute : Fixed 2 ['5', '9'] := ⟨List.all_eq_true.mp rfl, rfl⟩
    have hsecond : Fixed 2 ['6', '0'] := ⟨List.all_eq_true.mp rfl, rfl⟩
    exact .zoned (.mk hyear hmonth hday (.inl rfl) hhour hminute hsecond hpoint (.utc (.inl rfl)))
  have htext : Writes text.toList t ['2', '5'] :=
    hparts _ _ (List.all_eq_true.mp rfl) (by decide) (by decide +kernel)
  have hfiner : Writes finer.toList t ['2', '5', '0', '5'] :=
    hparts _ _ (List.all_eq_true.mp rfl) (by decide) (by decide +kernel)
  have hvalid : t.Valid := by decide
  obtain ⟨-, -, haccepted⟩ := (coerce_fraction text).2 t _ htext
  obtain ⟨-, hrefused, -⟩ := (coerce_fraction finer).2 t _ hfiner
  obtain ⟨value, millis, m, hcoerce, hbson, hsum, hmod, -, hstates⟩ := haccepted hvalid (by decide)
  exact ⟨htext, hfiner, hvalid, ⟨value, millis, m, hcoerce, hbson, hsum, hmod, hstates (by decide)⟩,
    hrefused hvalid (by decide)⟩

/-- Nine nanoseconds of ten more are dropped, not refused. -/
theorem tenth_digit_dropped :
    let ds := ['1', '2', '3', '0', '0', '0', '0', '0', '0', '9']
    Writes "2024-05-01T10:30:00.1230000009Z".toList ⟨⟨2024, 5, 1⟩, 10, 30, 0, 0, 0⟩ ds ∧
    ¬ InMillis ds ∧
    timestamp.coerce "2024-05-01T10:30:00.1230000009Z" =
      .ok (.timestamp ⟨1714559400, 123000000⟩) := by
  have hyear : Fixed 4 ['2', '0', '2', '4'] := ⟨List.all_eq_true.mp rfl, rfl⟩
  have hmonth : Fixed 2 ['0', '5'] := ⟨List.all_eq_true.mp rfl, rfl⟩
  have hday : Fixed 2 ['0', '1'] := ⟨List.all_eq_true.mp rfl, rfl⟩
  have hhour : Fixed 2 ['1', '0'] := ⟨List.all_eq_true.mp rfl, rfl⟩
  have hminute : Fixed 2 ['3', '0'] := ⟨List.all_eq_true.mp rfl, rfl⟩
  have hsecond : Fixed 2 ['0', '0'] := ⟨List.all_eq_true.mp rfl, rfl⟩
  have hpoint : Fraction ['.', '1', '2', '3', '0', '0', '0', '0', '0', '0', '9'] _ :=
    .point (List.all_eq_true.mp rfl) (by decide)
  refine ⟨?_, by decide, by decide +kernel⟩
  exact .zoned (.mk hyear hmonth hday (.inl rfl) hhour hminute hsecond hpoint (.utc (.inl rfl)))

end ScalarType
end Sift
