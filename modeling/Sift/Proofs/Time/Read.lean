import Sift.Proofs.Text.Digits
import Sift.Time.Read

/-!
# Timestamps that are read

Whatever the form, a second has less than a thousand million nanoseconds, and a leap second, which
ends a minute, less than twice as many (`wellFormed_of_read?`): a fraction is cut after nine digits,
and offsets are whole minutes.

Only the first form has a `Z` in it, so a text with a `Z` is read in this form alone
(`readLocal?_of_Z`).
-/

namespace Sift

/-- A second has less than a thousand million nanoseconds, and a leap second, which ends a minute,
has less than twice as many. -/
structure Timestamp.WellFormed (t : Timestamp) : Prop where
  nanos_lt : t.nanos < 2000000000
  leap : 1000000000 ≤ t.nanos → t.seconds % 60 = 59

/-- The fraction is less than a second, and the offset from UTC is of whole minutes. -/
structure LocalTime.Whole (t : LocalTime) : Prop where
  nanos_lt : t.nanos < 1000000000
  offset : t.offset % 60 = 0

theorem LocalTime.Whole.toTimestamp {t : LocalTime} (h : t.Whole) :
    t.toTimestamp.WellFormed := by
  obtain ⟨hnanos, hoffset⟩ := h
  unfold LocalTime.toTimestamp
  dsimp only
  split
  · exact ⟨by dsimp only; omega, fun _ => by dsimp only; omega⟩
  · exact ⟨by dsimp only; omega, fun hle => by dsimp only at hle; omega⟩

namespace Timestamp

/-! ## What the forms give -/

theorem zone_whole {cs rest : List Char} {offset : Int} (h : zone cs = some (offset, rest)) :
    offset % 60 = 0 := by
  unfold zone at h
  split at h
  · rw [← (Prod.mk.inj (Option.some.inj h)).1]
    rfl
  · rw [← (Prod.mk.inj (Option.some.inj h)).1]
    rfl
  · split at h
    · simp only [Option.bind_eq_bind, Option.bind_eq_some_iff, Prod.exists] at h
      obtain ⟨hours, _, -, _, -, minutes, _, -, h⟩ := h
      split at h
      · rw [← (Prod.mk.inj (Option.some.inj h)).1]
        split <;> omega
      · cases h
    · cases h
  · cases h

theorem fraction_lt {cs rest : List Char} {nanos : Nat} (h : fraction cs = some (nanos, rest)) :
    nanos < 1000000000 := by
  unfold fraction at h
  split at h
  · rename_i r
    dsimp only at h
    split at h
    · cases h
    · rw [← (Prod.mk.inj (Option.some.inj h)).1]
      have hkept : ∀ c ∈ (r.takeWhile Char.isDigit).take 9, c.isDigit = true := fun c hc =>
        List.all_eq_true.mp List.all_takeWhile c (List.mem_of_mem_take hc)
      have hlength : ((r.takeWhile Char.isDigit).take 9).length ≤ 9 := List.length_take_le 9 _
      generalize (r.takeWhile Char.isDigit).take 9 = kept at hkept hlength
      exact Text.filled_lt hkept hlength
  · rw [← (Prod.mk.inj (Option.some.inj h)).1]
    decide

theorem whole_of_readZoned {cs : List Char} {t : LocalTime} (h : readZoned cs = some t) :
    t.Whole := by
  simp only [readZoned, Option.bind_eq_bind, Option.bind_eq_some_iff, Prod.exists] at h
  obtain ⟨_, _, -, _, -, _, _, -, _, -, _, _, -, _, -, _, _, -, _, -, _, _, -, _, -, _, _, -,
    nanos, _, hnanos, offset, rest, hoffset, h⟩ := h
  split at h
  · rw [← Option.some.inj h]
    exact ⟨fraction_lt hnanos, zone_whole hoffset⟩
  · cases h

theorem whole_of_readMinute {cs rest : List Char} {t : LocalTime}
    (h : readMinute cs = some (t, rest)) : t.Whole := by
  simp only [readMinute, Option.bind_eq_bind, Option.bind_eq_some_iff, Prod.exists] at h
  obtain ⟨_, _, -, _, -, _, _, -, _, -, _, _, -, _, -, _, _, -, _, -, _, _, -, h⟩ := h
  rw [← (Prod.mk.inj (Option.some.inj h)).1]
  exact ⟨Nat.zero_lt_succ _, rfl⟩

theorem whole_of_readSeconds {cs : List Char} {t : LocalTime} (h : readSeconds cs = some t) :
    t.Whole := by
  simp only [readSeconds, Option.bind_eq_bind, Option.bind_eq_some_iff, Prod.exists] at h
  obtain ⟨start, _, hstart, _, -, _, _, -, nanos, _, hnanos, h⟩ := h
  split at h
  · rw [← Option.some.inj h]
    exact ⟨fraction_lt hnanos, (whole_of_readMinute hstart).offset⟩
  · cases h

theorem whole_of_readMinutes {cs : List Char} {t : LocalTime} (h : readMinutes cs = some t) :
    t.Whole := by
  simp only [readMinutes, Option.bind_eq_bind, Option.bind_eq_some_iff, Prod.exists] at h
  obtain ⟨start, _, hstart, h⟩ := h
  split at h
  · rw [← Option.some.inj h]
    exact whole_of_readMinute hstart
  · cases h

/-- What a text names in one of the forms, in the first that fits. -/
def readLocal? (cs : List Char) : Option LocalTime :=
  let valid (form : List Char → Option LocalTime) := (form cs).filter fun t => decide t.Valid
  (valid readZoned).or ((valid readSeconds).or (valid readMinutes))

theorem read?_eq (text : String) :
    read? text = (readLocal? text.toList).map LocalTime.toTimestamp := rfl

theorem wellFormed_of_read? {text : String} {t : Timestamp} (h : read? text = some t) :
    t.WellFormed := by
  rw [read?_eq] at h
  obtain ⟨t, hlocal, rfl⟩ := Option.map_eq_some_iff.mp h
  refine LocalTime.Whole.toTimestamp ?_
  simp only [readLocal?, Option.or_eq_some_iff, Option.filter_eq_some_iff] at hlocal
  rcases hlocal with ⟨hzoned, -⟩ | ⟨-, ⟨hseconds, -⟩ | ⟨-, hminutes, -⟩⟩
  · exact whole_of_readZoned hzoned
  · exact whole_of_readSeconds hseconds
  · exact whole_of_readMinutes hminutes

/-! ## Forms without a `Z`

No part of the second and the third form takes a `Z`, so one that is there is left over. -/

section

variable {cs rest : List Char}

theorem mem_of_mark {c : Char} (hc : 'Z' ≠ c) (hZ : 'Z' ∈ cs) (h : mark c cs = some rest) :
    'Z' ∈ rest := by
  unfold mark at h
  split at h
  · split at h
    · rename_i hd
      rw [← Option.some.inj h]
      refine (List.mem_cons.mp hZ).resolve_left ?_
      rwa [hd]
    · cases h
  · cases h

theorem mem_drop_of_prefix {ds : List Char} (hstart : ds <+: cs)
    (hds : ∀ c ∈ ds, c.isDigit = true) (hZ : 'Z' ∈ cs) : 'Z' ∈ cs.drop ds.length := by
  obtain ⟨after, rfl⟩ := hstart
  rw [List.drop_left]
  refine (List.mem_append.mp hZ).resolve_left fun hmem => ?_
  exact absurd (hds _ hmem) (by decide)

theorem mem_dropWhile {p : Char → Bool} (hp : p 'Z' = false) (hZ : 'Z' ∈ cs) :
    'Z' ∈ cs.dropWhile p := by
  rw [← List.takeWhile_append_dropWhile (p := p) (l := cs), List.mem_append] at hZ
  refine hZ.resolve_left fun hmem => ?_
  rw [List.all_eq_true.mp List.all_takeWhile _ hmem] at hp
  cases hp

theorem mem_of_shortNumber {width n : Nat} (hZ : 'Z' ∈ cs)
    (h : shortNumber width cs = some (n, rest)) : 'Z' ∈ rest := by
  unfold shortNumber at h
  simp only at h
  split at h
  · cases h
  · rw [← (Prod.mk.inj (Option.some.inj h)).2]
    refine mem_drop_of_prefix ?_ (List.all_eq_true.mp List.all_takeWhile)
      (mem_dropWhile (by decide) hZ)
    exact (List.takeWhile_prefix _).trans (List.take_prefix _ _)

theorem mem_of_longNumber {n : Nat} (hZ : 'Z' ∈ cs) (h : longNumber cs = some (n, rest)) :
    'Z' ∈ rest := by
  unfold longNumber at h
  simp only at h
  split at h
  · cases h
  · rw [← (Prod.mk.inj (Option.some.inj h)).2]
    exact mem_dropWhile (by decide) hZ

theorem mem_of_shortYear {year : Int} (hZ : 'Z' ∈ cs) (h : shortYear cs = some (year, rest)) :
    'Z' ∈ rest := by
  have hdrop := mem_dropWhile (show Text.isBlank 'Z' = false by decide) hZ
  unfold shortYear at h
  split at h
  · rename_i r hcs
    rw [hcs] at hdrop
    obtain ⟨⟨n, _⟩, hn, hrest⟩ := Option.map_eq_some_iff.mp h
    rw [← (Prod.mk.inj hrest).2]
    exact mem_of_longNumber ((List.mem_cons.mp hdrop).resolve_left (by decide)) hn
  · rename_i r hcs
    rw [hcs] at hdrop
    obtain ⟨⟨n, _⟩, hn, hrest⟩ := Option.map_eq_some_iff.mp h
    rw [← (Prod.mk.inj hrest).2]
    exact mem_of_longNumber ((List.mem_cons.mp hdrop).resolve_left (by decide)) hn
  · obtain ⟨⟨n, _⟩, hn, hrest⟩ := Option.map_eq_some_iff.mp h
    rw [← (Prod.mk.inj hrest).2]
    exact mem_of_shortNumber hdrop hn

theorem mem_of_fraction {nanos : Nat} (hZ : 'Z' ∈ cs) (h : fraction cs = some (nanos, rest)) :
    'Z' ∈ rest := by
  unfold fraction at h
  split at h
  · simp only at h
    split at h
    · cases h
    · rw [← (Prod.mk.inj (Option.some.inj h)).2]
      exact mem_dropWhile (by decide) ((List.mem_cons.mp hZ).resolve_left (by decide))
  · rw [← (Prod.mk.inj (Option.some.inj h)).2]
    exact hZ

theorem mem_of_readMinute {t : LocalTime} (hZ : 'Z' ∈ cs) (h : readMinute cs = some (t, rest)) :
    'Z' ∈ rest := by
  simp only [readMinute, Option.bind_eq_bind, Option.bind_eq_some_iff, Prod.exists] at h
  obtain ⟨_, _, hyear, _, hmark, _, _, hmonth, _, hmark', _, _, hday, _, hT, _, _, hhour, _, hcolon,
    _, _, hminute, h⟩ := h
  rw [← (Prod.mk.inj (Option.some.inj h)).2]
  have hmonthZ := mem_of_mark (by decide) (mem_of_shortYear hZ hyear) hmark
  have hdayZ := mem_of_mark (by decide) (mem_of_shortNumber hmonthZ hmonth) hmark'
  have hhourZ := mem_of_mark (by decide) (mem_of_shortNumber hdayZ hday) hT
  have hminuteZ := mem_of_mark (by decide) (mem_of_shortNumber hhourZ hhour) hcolon
  exact mem_of_shortNumber hminuteZ hminute

theorem readSeconds_of_Z (hZ : 'Z' ∈ cs) : readSeconds cs = none := by
  refine Option.eq_none_iff_forall_ne_some.mpr fun t h => ?_
  simp only [readSeconds, Option.bind_eq_bind, Option.bind_eq_some_iff, Prod.exists] at h
  obtain ⟨_, _, hstart, _, hcolon, _, _, hsecond, _, _, hnanos, h⟩ := h
  split at h
  · rename_i hnil
    have hsecondZ := mem_of_mark (by decide) (mem_of_readMinute hZ hstart) hcolon
    have hend := mem_of_fraction (mem_of_shortNumber hsecondZ hsecond) hnanos
    rw [hnil] at hend
    cases hend
  · cases h

theorem readMinutes_of_Z (hZ : 'Z' ∈ cs) : readMinutes cs = none := by
  refine Option.eq_none_iff_forall_ne_some.mpr fun t h => ?_
  simp only [readMinutes, Option.bind_eq_bind, Option.bind_eq_some_iff, Prod.exists] at h
  obtain ⟨_, _, hstart, h⟩ := h
  split at h
  · rename_i hnil
    have hend := mem_of_readMinute hZ hstart
    rw [hnil] at hend
    cases hend
  · cases h

theorem readLocal?_of_Z (hZ : 'Z' ∈ cs) :
    readLocal? cs = (readZoned cs).filter fun t => decide t.Valid := by
  simp [readLocal?, readSeconds_of_Z hZ, readMinutes_of_Z hZ]

end

end Timestamp
end Sift
