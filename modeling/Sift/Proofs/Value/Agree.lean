import Sift.Proofs.Value.Precision

/-!
# One time in several forms

A date and a time in digits of fixed widths are read alike in every form that can hold them: without
a zone and with a `Z`, and to the minute and with a second of zero behind it.  An offset moves the
time that is read by as much and changes nothing else, since it has no say in whether the date and
the time exist (`coerce_forms_agree`).
-/

namespace Sift

namespace Timestamp

/-- A date and a time to the minute, with a digit for each place. -/
inductive PaddedMinute : List Char → LocalTime → Prop where
  | mk {year month day hour minute : List Char} (hyear : Fixed 4 year) (hmonth : Fixed 2 month)
      (hday : Fixed 2 day) (hhour : Fixed 2 hour) (hminute : Fixed 2 minute) :
      PaddedMinute (year ++ '-' :: (month ++ '-' :: (day ++ 'T' :: (hour ++ ':' :: minute))))
        ⟨⟨Text.digitsValue year, Text.digitsValue month, Text.digitsValue day⟩,
          Text.digitsValue hour, Text.digitsValue minute, 0, 0, 0⟩

/-- The time that is later by some seconds; they are taken back if there are less than none. -/
def later (t : Timestamp) (seconds : Int) : Timestamp := { t with seconds := t.seconds + seconds }

variable {start second point zone ds : List Char} {t : LocalTime} {offset : Int}

theorem PaddedMinute.toMinute (h : PaddedMinute start t) : ToMinute start t := by
  obtain ⟨hyear, hmonth, hday, hhour, hminute⟩ := h
  exact .mk (.unsigned (hyear.short (by decide))) (hmonth.short (by decide))
    (hday.short (by decide)) (hhour.short (by decide)) (hminute.short (by decide))

theorem PaddedMinute.seconds (h : PaddedMinute start t) (hsecond : Fixed 2 second)
    (hpoint : Fraction point ds) :
    Writes (start ++ ':' :: (second ++ point)) { t with second := Text.digitsValue second } ds :=
  .seconds h.toMinute (hsecond.short (by decide)) hpoint

theorem PaddedMinute.zoned (h : PaddedMinute start t) (hsecond : Fixed 2 second)
    (hpoint : Fraction point ds) (hzone : Zone zone offset) :
    Writes (start ++ ':' :: (second ++ (point ++ zone)))
      { t with second := Text.digitsValue second, offset } ds := by
  obtain ⟨hyear, hmonth, hday, hhour, hminute⟩ := h
  have hzoned := Zoned.mk hyear hmonth hday (.inl rfl) hhour hminute hsecond hpoint hzone
  simp only [List.append_assoc, List.cons_append]
  exact .zoned hzoned

/-- An offset has a say only in the seconds. -/
theorem toTimestamp_offset (t : LocalTime) (offset : Int) :
    ({ t with offset } : LocalTime).toTimestamp =
      ({ t with offset := 0 } : LocalTime).toTimestamp.later (-offset) := by
  unfold LocalTime.toTimestamp later
  dsimp only
  split <;> rw [Int.sub_zero, Int.sub_eq_add_neg]

end Timestamp

/-- The value later by some seconds, if it is a time. -/
def TypedValue.later (seconds : Int) : TypedValue → TypedValue
  | timestamp t => timestamp (t.later seconds)
  | v => v

namespace ScalarType

open Timestamp

/-- The value that a text is read as, if it is read as a timestamp. -/
def timeOf (cs : List Char) : Option TypedValue := (timestamp.coerce (String.ofList cs)).toOption

variable {cs start second point zone ds : List Char} {t : LocalTime} {offset : Int}

theorem timeOf_of_writes (h : Writes cs t ds) :
    timeOf cs =
      if t.Valid ∧ InMillis (ds.take 9) then
        some (.timestamp ({ t with nanos := nanosOf ds } : LocalTime).toTimestamp)
      else none := by
  have hwrites : Writes (String.ofList cs).toList t ds := by rwa [String.toList_ofList]
  rw [timeOf, coerce_of_writes hwrites]
  by_cases hvalid : t.Valid
  · by_cases hmillis : InMillis (ds.take 9) <;> simp [hvalid, hmillis, Except.toOption]
  · simp [hvalid, Except.toOption]

/-- Without seconds and with a second of zero. -/
theorem timeOf_minute (hstart : PaddedMinute start t) :
    timeOf start = timeOf (start ++ [':', '0', '0']) := by
  have hzeros : Fixed 2 ['0', '0'] := ⟨List.all_eq_true.mp rfl, rfl⟩
  have hsecond : { t with second := Text.digitsValue ['0', '0'] } = t := by
    cases hstart
    rfl
  have hseconds := hstart.seconds hzeros .absent
  rw [hsecond, List.append_nil] at hseconds
  rw [timeOf_of_writes (.minutes hstart.toMinute), timeOf_of_writes hseconds]

/-- Without a zone and with the `Z`. -/
theorem timeOf_utc (hstart : PaddedMinute start t) (hsecond : Fixed 2 second)
    (hpoint : Fraction point ds) :
    timeOf (start ++ ':' :: (second ++ point)) =
      timeOf (start ++ ':' :: (second ++ (point ++ ['Z']))) := by
  have hzoned := hstart.zoned hsecond hpoint (.utc (.inl rfl))
  have hutc : t.offset = 0 := hstart.toMinute.nanos_offset.2
  rw [← hutc] at hzoned
  rw [timeOf_of_writes (hstart.seconds hsecond hpoint), timeOf_of_writes hzoned]

/-- With a zone the time is that of UTC, moved back by the offset. -/
theorem timeOf_zoned (hstart : PaddedMinute start t) (hsecond : Fixed 2 second)
    (hpoint : Fraction point ds) (hzone : Zone zone offset) :
    timeOf (start ++ ':' :: (second ++ (point ++ zone))) =
      (timeOf (start ++ ':' :: (second ++ (point ++ ['Z'])))).map (TypedValue.later (-offset)) := by
  have hmoved := toTimestamp_offset
    { t with second := Text.digitsValue second, nanos := nanosOf ds } offset
  rw [timeOf_of_writes (hstart.zoned hsecond hpoint hzone),
    timeOf_of_writes (hstart.zoned hsecond hpoint (.utc (.inl rfl))), hmoved]
  -- the offset is no part of what has to exist
  have hexists : ({ t with second := Text.digitsValue second, offset } : LocalTime).Valid ↔
      ({ t with second := Text.digitsValue second, offset := 0 } : LocalTime).Valid := Iff.rfl
  simp only [hexists]
  split <;> rfl

/-- The forms of one date and time agree.  Without a zone a text is read as with a `Z`, to the
minute as with a second of zero, and with an offset as the time of UTC that is earlier by the
offset. -/
theorem coerce_forms_agree (hstart : PaddedMinute start t) (hsecond : Fixed 2 second)
    (hpoint : Fraction point ds) :
    let full := start ++ ':' :: (second ++ point)
    timeOf full = timeOf (full ++ ['Z']) ∧
    (timeOf start = timeOf (start ++ [':', '0', '0']) ∧
      timeOf start = timeOf (start ++ [':', '0', '0', 'Z'])) ∧
    ∀ sign hours minutes, sign = '+' ∨ sign = '-' → Fixed 2 hours → Fixed 2 minutes →
      Text.digitsValue hours ≤ 23 → Text.digitsValue minutes ≤ 59 →
        let size : Int := (Text.digitsValue hours * 3600 + Text.digitsValue minutes * 60 : Nat)
        let offset := if sign = '+' then size else -size
        timeOf (full ++ sign :: (hours ++ ':' :: minutes)) =
          (timeOf (full ++ ['Z'])).map (TypedValue.later (-offset)) := by
  have hbehind : ∀ zone, start ++ ':' :: (second ++ point) ++ zone =
      start ++ ':' :: (second ++ (point ++ zone)) := by simp
  intro full
  refine ⟨?_, ⟨timeOf_minute hstart, ?_⟩, ?_⟩
  · rw [hbehind]
    exact timeOf_utc hstart hsecond hpoint
  · have hzeros : Fixed 2 ['0', '0'] := ⟨List.all_eq_true.mp rfl, rfl⟩
    have hutc := timeOf_utc hstart hzeros .absent
    rw [List.append_nil, List.nil_append] at hutc
    rw [timeOf_minute hstart]
    exact hutc
  · intro sign hours minutes hsign hhours hminutes hlow hhigh
    have hzone := Zone.offset (hsign.imp_right .inl) hhours hminutes
      ⟨Nat.lt_succ_of_le hlow, Nat.lt_succ_of_le hhigh⟩
    rw [hbehind, hbehind]
    exact timeOf_zoned hstart hsecond hpoint hzone

/-- A leap second on a leap day, with an offset that takes it back into the day before. -/
theorem coerce_forms_agree_leapDay :
    let start := "2024-02-29T02:15".toList
    let second := "60".toList
    let point := ".25".toList
    let full := start ++ ':' :: (second ++ point)
    PaddedMinute start ⟨⟨2024, 2, 29⟩, 2, 15, 0, 0, 0⟩ ∧ Fixed 2 second ∧
    Fraction point "25".toList ∧
    (timeOf full = timeOf (full ++ ['Z']) ∧
      timeOf start = timeOf (start ++ [':', '0', '0', 'Z']) ∧
      timeOf (full ++ '+' :: ("05".toList ++ ':' :: "45".toList)) =
        (timeOf (full ++ ['Z'])).map (TypedValue.later (-20700))) ∧
    timestamp.coerce "2024-02-29T02:15:60.25+05:45" = .ok (.timestamp ⟨1709152259, 1250000000⟩) ∧
    (TypedValue.timestamp ⟨1709152259, 1250000000⟩).text = "2024-02-28T20:30:60.250Z" := by
  intro start second point full
  have hfixed : ∀ width cs, cs.all Char.isDigit = true → cs.length = width → Fixed width cs :=
    fun width cs hdigits hlength => ⟨List.all_eq_true.mp hdigits, hlength⟩
  have hparts : start = "2024".toList ++ '-' :: ("02".toList ++ '-' :: ("29".toList ++
      'T' :: ("02".toList ++ ':' :: "15".toList))) := by decide +kernel
  have hstart : PaddedMinute start ⟨⟨2024, 2, 29⟩, 2, 15, 0, 0, 0⟩ := by
    rw [hparts]
    exact .mk (hfixed 4 "2024".toList rfl rfl) (hfixed 2 "02".toList rfl rfl)
      (hfixed 2 "29".toList rfl rfl) (hfixed 2 "02".toList rfl rfl) (hfixed 2 "15".toList rfl rfl)
  have hsecond : Fixed 2 second := hfixed 2 second (by decide) (by decide)
  have hpoint : Fraction point "25".toList :=
    .point (List.all_eq_true.mp (by decide)) (by decide)
  obtain ⟨hutc, ⟨-, hzero⟩, hoffset⟩ := coerce_forms_agree hstart hsecond hpoint
  have hmoved := hoffset '+' "05".toList "45".toList (.inl rfl)
    (hfixed 2 "05".toList (by decide) (by decide)) (hfixed 2 "45".toList (by decide) (by decide))
    (by decide) (by decide)
  exact ⟨hstart, hsecond, hpoint, ⟨hutc, hzero, hmoved⟩, by decide +kernel, by decide +kernel⟩

end ScalarType
end Sift
