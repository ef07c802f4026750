import Sift.Proofs.Time.Read

/-!
# The written forms

`Writes` says what a timestamp looks like in each of the three forms, by rules that do not mention
the readers: the text, the date and time it states to the second, and the digits of its fraction,
however many there are.  What is read is exactly what the rules allow: a text in a form is read if
its date and time exist, with the first nine digits of the fraction as nanoseconds
(`readLocal?_of_writes`), and nothing else is read (`exists_writes_of_readLocal?`).

No text is in two forms.  A text in the first form goes on, with its zone, where the others end
(`Zoned.reads_no_other`), and one in the third ends where the second goes on with a colon.
-/

namespace Sift
namespace Timestamp

/-! ## Rules -/

/-- A run of digits of a fixed width. -/
structure Fixed (width : Nat) (cs : List Char) : Prop where
  digits : ∀ c ∈ cs, c.isDigit = true
  length : cs.length = width

/-- White space and then a number of one to `width` digits. -/
inductive Short (width : Nat) : List Char → Nat → Prop where
  | mk {blanks ds : List Char} (hblanks : ∀ c ∈ blanks, Text.isBlank c = true)
      (hdigits : ∀ c ∈ ds, c.isDigit = true) (hne : ds ≠ []) (hlength : ds.length ≤ width) :
      Short width (blanks ++ ds) (Text.digitsValue ds)

/-- A year of up to four digits, or one of any length with a sign. -/
inductive Year : List Char → Int → Prop where
  | unsigned {cs : List Char} {n : Nat} (h : Short 4 cs n) : Year cs n
  | minus {blanks ds : List Char} (hblanks : ∀ c ∈ blanks, Text.isBlank c = true)
      (hdigits : ∀ c ∈ ds, c.isDigit = true) (hne : ds ≠ []) :
      Year (blanks ++ '-' :: ds) (-(Text.digitsValue ds : Int))
  | plus {blanks ds : List Char} (hblanks : ∀ c ∈ blanks, Text.isBlank c = true)
      (hdigits : ∀ c ∈ ds, c.isDigit = true) (hne : ds ≠ []) :
      Year (blanks ++ '+' :: ds) (Text.digitsValue ds)

/-- Nothing, or a point and any number of digits. -/
inductive Fraction : List Char → List Char → Prop where
  | absent : Fraction [] []
  | point {ds : List Char} (hdigits : ∀ c ∈ ds, c.isDigit = true) (hne : ds ≠ []) :
      Fraction ('.' :: ds) ds

/-- `Z`, or hours and minutes ahead of UTC or behind it. -/
inductive Zone : List Char → Int → Prop where
  | utc {c : Char} (hc : c = 'Z' ∨ c = 'z') : Zone [c] 0
  | offset {c : Char} {hours minutes : List Char} (hc : c = '+' ∨ c = '-' ∨ c = '−')
      (hhours : Fixed 2 hours) (hminutes : Fixed 2 minutes)
      (hbound : Text.digitsValue hours < 24 ∧ Text.digitsValue minutes < 60) :
      Zone (c :: (hours ++ ':' :: minutes))
        (let size : Int := (Text.digitsValue hours * 3600 + Text.digitsValue minutes * 60 : Nat)
         if c = '+' then size else -size)

/-- The first form: a date and a time of fixed widths, to the second, then a fraction and a zone. -/
inductive Zoned : List Char → LocalTime → List Char → Prop where
  | mk {year month day hour minute second : List Char} {sep : Char} {point ds zone : List Char}
      {offset : Int} (hyear : Fixed 4 year) (hmonth : Fixed 2 month) (hday : Fixed 2 day)
      (hsep : sep = 'T' ∨ sep = 't' ∨ sep = ' ') (hhour : Fixed 2 hour) (hminute : Fixed 2 minute)
      (hsecond : Fixed 2 second) (hpoint : Fraction point ds) (hzone : Zone zone offset) :
      Zoned (year ++ '-' :: (month ++ '-' :: (day ++ sep :: (hour ++ ':' :: (minute ++ ':' ::
          (second ++ (point ++ zone)))))))
        ⟨⟨Text.digitsValue year, Text.digitsValue month, Text.digitsValue day⟩,
          Text.digitsValue hour, Text.digitsValue minute, Text.digitsValue second, 0, offset⟩ ds

/-- A date and a time to the minute in UTC. -/
inductive ToMinute : List Char → LocalTime → Prop where
  | mk {cs₁ cs₂ cs₃ cs₄ cs₅ : List Char} {year : Int} {month day hour minute : Nat}
      (hyear : Year cs₁ year) (hmonth : Short 2 cs₂ month) (hday : Short 2 cs₃ day)
      (hhour : Short 2 cs₄ hour) (hminute : Short 2 cs₅ minute) :
      ToMinute (cs₁ ++ '-' :: (cs₂ ++ '-' :: (cs₃ ++ 'T' :: (cs₄ ++ ':' :: cs₅))))
        ⟨⟨year, month, day⟩, hour, minute, 0, 0, 0⟩

/-- The date and time that a text states to the second, and the digits of its fraction. -/
inductive Writes : List Char → LocalTime → List Char → Prop where
  | zoned {cs ds : List Char} {t : LocalTime} (h : Zoned cs t ds) : Writes cs t ds
  | seconds {start number point ds : List Char} {t : LocalTime} {second : Nat}
      (hstart : ToMinute start t) (hsecond : Short 2 number second) (hpoint : Fraction point ds) :
      Writes (start ++ ':' :: (number ++ point)) { t with second } ds
  | minutes {cs : List Char} {t : LocalTime} (h : ToMinute cs t) : Writes cs t []

/-- The nanoseconds that the digits of a fraction are read as. -/
def nanosOf (ds : List Char) : Nat := Text.filled 9 (ds.take 9)

section

variable {cs ds : List Char} {t : LocalTime}

theorem Zone.offset_lt {offset : Int} (h : Zone cs offset) : -86400 < offset ∧ offset < 86400 := by
  cases h with
  | utc => decide
  | offset hc hhours hminutes hbound =>
    dsimp only
    split <;> omega

theorem ToMinute.nanos_offset (h : ToMinute cs t) : t.nanos = 0 ∧ t.offset = 0 := by
  cases h
  exact ⟨rfl, rfl⟩

theorem Fraction.isDigit (h : Fraction cs ds) : ∀ c ∈ ds, c.isDigit = true := by
  cases h with
  | absent => exact List.forall_mem_nil _
  | point hdigits hne => exact hdigits

/-- The time is stated to the second, and the rest is left to the digits. -/
theorem Writes.nanos (h : Writes cs t ds) : t.nanos = 0 := by
  cases h with
  | zoned h =>
    cases h
    rfl
  | seconds hstart hsecond hpoint => exact hstart.nanos_offset.1
  | minutes h => exact h.nanos_offset.1

theorem Writes.offset_lt (h : Writes cs t ds) : -86400 < t.offset ∧ t.offset < 86400 := by
  cases h with
  | zoned h =>
    obtain ⟨-, -, -, -, -, -, -, -, hzone⟩ := h
    exact hzone.offset_lt
  | seconds hstart hsecond hpoint =>
    have hoffset := hstart.nanos_offset.2
    dsimp only
    omega
  | minutes h =>
    have hoffset := h.nanos_offset.2
    omega

theorem Writes.isDigit (h : Writes cs t ds) : ∀ c ∈ ds, c.isDigit = true := by
  cases h with
  | zoned h =>
    obtain ⟨-, -, -, -, -, -, -, hpoint, -⟩ := h
    exact hpoint.isDigit
  | seconds hstart hsecond hpoint => exact hpoint.isDigit
  | minutes h => exact List.forall_mem_nil _

end

/-! ## Numbers in front of other text -/

section

variable {cs ds rest : List Char} {p : Char → Bool}

theorem dropWhile_append_of_stop (hcs : ∀ c ∈ cs, p c = true)
    (hrest : ∀ c ∈ rest.head?, p c = false) : (cs ++ rest).dropWhile p = rest := by
  rw [List.dropWhile_append_of_pos hcs]
  cases rest with
  | nil => rfl
  | cons c rest => simp [hrest c rfl]

theorem takeWhile_append_of_stop (hcs : ∀ c ∈ cs, p c = true)
    (hrest : ∀ c ∈ rest.head?, p c = false) : (cs ++ rest).takeWhile p = cs := by
  have hsplit := List.takeWhile_append_dropWhile (p := p) (l := cs ++ rest)
  rw [dropWhile_append_of_stop hcs hrest] at hsplit
  exact List.append_cancel_right hsplit

theorem all_takeWhile (p : Char → Bool) (cs : List Char) : ∀ c ∈ cs.takeWhile p, p c = true :=
  List.all_eq_true.mp List.all_takeWhile

/-- The text does not go on with a digit. -/
def NoDigit (cs : List Char) : Prop := ∀ c ∈ cs.head?, c.isDigit = false

theorem noDigit_nil : NoDigit [] := by simp [NoDigit]

theorem noDigit_cons {c : Char} (hc : c.isDigit = false) : NoDigit (c :: cs) := by
  simpa [NoDigit] using hc

theorem NoDigit.take (h : NoDigit cs) (n : Nat) : NoDigit (cs.take n) := by
  cases n with
  | zero => exact noDigit_nil
  | succ n => rwa [NoDigit, List.head?_take, if_neg (Nat.succ_ne_zero n)]

/-- A number is not taken for a part of the white space in front of it. -/
theorem isBlank_of_isDigit {c : Char} (h : c.isDigit = true) : Text.isBlank c = false := by
  have hrange : 48 ≤ c.toNat ∧ c.toNat ≤ 57 := Char.isDigit_iff_toNat.mp h
  simp only [Text.isBlank, Text.blankRanges, List.any_cons, List.any_nil, Bool.or_false,
    Bool.or_eq_false_iff, Bool.and_eq_false_iff, decide_eq_false_iff_not]
  omega

theorem isDigit_of_head? (hdigits : ∀ c ∈ ds, c.isDigit = true) (hne : ds ≠ [])
    (rest : List Char) : ∀ c ∈ (ds ++ rest).head?, c.isDigit = true := by
  intro c hc
  rw [List.head?_append, List.head?_eq_some_head hne, Option.some_or] at hc
  exact hdigits c (List.mem_of_mem_head? (List.head?_eq_some_head hne ▸ hc))

end

section

variable {cs ds rest : List Char} {width n : Nat}

theorem Fixed.read (h : Fixed width cs) (rest : List Char) :
    fixedDigits width (cs ++ rest) = some (Text.digitsValue cs, rest) := by
  have htake : (cs ++ rest).take width = cs := List.take_left' h.length
  have hdrop : (cs ++ rest).drop width = rest := List.drop_left' h.length
  have hall : cs.all Char.isDigit = true := List.all_eq_true.mpr h.digits
  simp [fixedDigits, htake, hdrop, h.length, hall]

theorem exists_fixed (h : fixedDigits width cs = some (n, rest)) :
    ∃ ds, cs = ds ++ rest ∧ Fixed width ds ∧ Text.digitsValue ds = n := by
  unfold fixedDigits at h
  dsimp only at h
  split at h
  · rename_i hds
    obtain ⟨hvalue, hrest⟩ := Prod.mk.inj (Option.some.inj h)
    refine ⟨cs.take width, ?_, ⟨List.all_eq_true.mp hds.2, hds.1⟩, hvalue⟩
    rw [← hrest, List.take_append_drop]
  · cases h

theorem Short.read (h : Short width cs n) (hrest : NoDigit rest) :
    shortNumber width (cs ++ rest) = some (n, rest) := by
  obtain ⟨hblanks, hdigits, hne, hlength⟩ := h
  rename_i blanks ds
  have hstart : (blanks ++ ds ++ rest).dropWhile Text.isBlank = ds ++ rest := by
    rw [List.append_assoc]
    exact dropWhile_append_of_stop hblanks fun c hc =>
      isBlank_of_isDigit (isDigit_of_head? hdigits hne rest c hc)
  have htake : ((ds ++ rest).take width).takeWhile Char.isDigit = ds := by
    rw [List.take_append, List.take_of_length_le hlength]
    exact takeWhile_append_of_stop hdigits (hrest.take _)
  simp only [shortNumber, hstart, htake, if_neg hne, List.drop_left]

theorem exists_short (h : shortNumber width cs = some (n, rest)) :
    ∃ start, cs = start ++ rest ∧ Short width start n := by
  unfold shortNumber at h
  dsimp only at h
  split at h
  · cases h
  · rename_i hne
    obtain ⟨rfl, hrest⟩ := Prod.mk.inj (Option.some.inj h)
    have hsplit := List.takeWhile_append_dropWhile (p := Text.isBlank) (l := cs)
    generalize cs.dropWhile Text.isBlank = after at hne hrest hsplit ⊢
    have hstart := List.takeWhile_prefix (l := after.take width) Char.isDigit
    have hlength := Nat.le_trans hstart.length_le (List.length_take_le width after)
    refine ⟨_, ?_, .mk (all_takeWhile Text.isBlank cs) (all_takeWhile _ _) hne hlength⟩
    obtain ⟨last, hlast⟩ := hstart.trans (List.take_prefix width after)
    generalize (after.take width).takeWhile Char.isDigit = ds at hlast hrest
    rw [← hlast, List.drop_left] at hrest
    rw [List.append_assoc, ← hrest, hlast, hsplit]

theorem longNumber_append (hdigits : ∀ c ∈ ds, c.isDigit = true) (hne : ds ≠ [])
    (hrest : NoDigit rest) : longNumber (ds ++ rest) = some (Text.digitsValue ds, rest) := by
  simp only [longNumber, takeWhile_append_of_stop hdigits hrest,
    dropWhile_append_of_stop hdigits hrest, if_neg hne]

theorem exists_of_longNumber (h : longNumber cs = some (n, rest)) :
    ∃ ds, cs = ds ++ rest ∧ (∀ c ∈ ds, c.isDigit = true) ∧ ds ≠ [] ∧ Text.digitsValue ds = n := by
  unfold longNumber at h
  dsimp only at h
  split at h
  · cases h
  · rename_i hne
    obtain ⟨hvalue, hrest⟩ := Prod.mk.inj (Option.some.inj h)
    refine ⟨_, ?_, all_takeWhile _ _, hne, hvalue⟩
    rw [← hrest, List.takeWhile_append_dropWhile]

theorem Year.read {year : Int} (h : Year cs year) (hrest : NoDigit rest) :
    shortYear (cs ++ rest) = some (year, rest) := by
  unfold shortYear
  cases h with
  | minus hblanks hdigits hne =>
    rw [List.append_assoc, dropWhile_append_of_stop hblanks (by simp; decide), List.cons_append]
    simp only [longNumber_append hdigits hne hrest, Option.map_some]
  | plus hblanks hdigits hne =>
    rw [List.append_assoc, dropWhile_append_of_stop hblanks (by simp; decide), List.cons_append]
    simp only [longNumber_append hdigits hne hrest, Option.map_some]
  | unsigned h =>
    obtain ⟨hblanks, hdigits, hne, hlength⟩ := h
    rename_i blanks ds
    have hhead := isDigit_of_head? hdigits hne rest
    have hnumber : shortNumber 4 (ds ++ rest) = some (Text.digitsValue ds, rest) :=
      Short.read (.mk (List.forall_mem_nil _) hdigits hne hlength) hrest
    rw [List.append_assoc,
      dropWhile_append_of_stop hblanks fun c hc => isBlank_of_isDigit (hhead c hc)]
    -- the first character of the number is not a sign
    split
    · rename_i r hsign
      exact absurd (hhead '-' (by rw [hsign]; rfl)) (by decide)
    · rename_i r hsign
      exact absurd (hhead '+' (by rw [hsign]; rfl)) (by decide)
    · rw [hnumber]
      rfl

theorem exists_year {year : Int} (h : shortYear cs = some (year, rest)) :
    ∃ start, cs = start ++ rest ∧ Year start year := by
  have hblanks := all_takeWhile Text.isBlank cs
  have hsplit := List.takeWhile_append_dropWhile (p := Text.isBlank) (l := cs)
  unfold shortYear at h
  split at h
  · rename_i r hsign
    obtain ⟨⟨n, _⟩, hn, heq⟩ := Option.map_eq_some_iff.mp h
    obtain ⟨rfl, rfl⟩ := Prod.mk.inj heq
    obtain ⟨ds, rfl, hdigits, hne, rfl⟩ := exists_of_longNumber hn
    refine ⟨_, ?_, .minus hblanks hdigits hne⟩
    rw [List.append_assoc, List.cons_append, ← hsign, hsplit]
  · rename_i r hsign
    obtain ⟨⟨n, _⟩, hn, heq⟩ := Option.map_eq_some_iff.mp h
    obtain ⟨rfl, rfl⟩ := Prod.mk.inj heq
    obtain ⟨ds, rfl, hdigits, hne, rfl⟩ := exists_of_longNumber hn
    refine ⟨_, ?_, .plus hblanks hdigits hne⟩
    rw [List.append_assoc, List.cons_append, ← hsign, hsplit]
  · obtain ⟨⟨n, _⟩, hn, heq⟩ := Option.map_eq_some_iff.mp h
    obtain ⟨rfl, rfl⟩ := Prod.mk.inj heq
    obtain ⟨start, hstart, hshort⟩ := exists_short hn
    obtain ⟨hmore, hdigits, hne, hlength⟩ := hshort
    rename_i more ds
    have hall := List.forall_mem_append.mpr ⟨hblanks, hmore⟩
    refine ⟨_, ?_, .unsigned (.mk hall hdigits hne hlength)⟩
    rw [List.append_assoc, List.append_assoc, ← List.append_assoc more, ← hstart, hsplit]

theorem mark_cons (c : Char) : mark c (c :: rest) = some rest := by
  simp [mark]

theorem mark_eq_some_iff {c : Char} : mark c cs = some rest ↔ cs = c :: rest := by
  cases cs with
  | nil => simp [mark]
  | cons d cs => simp [mark, ite_eq_iff]

theorem dateEnd_eq_some_iff :
    dateEnd cs = some rest ↔ ∃ c, (c = 'T' ∨ c = 't' ∨ c = ' ') ∧ cs = c :: rest := by
  cases cs with
  | nil => simp [dateEnd]
  | cons d cs =>
    simp only [dateEnd, Option.ite_none_right_eq_some, Option.some.injEq, List.cons.injEq]
    exact ⟨fun ⟨hd, hcs⟩ => ⟨d, hd, rfl, hcs⟩, fun ⟨_, hc, hd, hcs⟩ => ⟨hd ▸ hc, hcs⟩⟩

/-! ## Fractions and zones -/

theorem Fraction.noDigit (h : Fraction cs ds) (hrest : NoDigit rest) : NoDigit (cs ++ rest) := by
  cases h with
  | absent => exact hrest
  | point => exact noDigit_cons (by decide)

theorem Fraction.read (h : Fraction cs ds) (hrest : NoDigit rest)
    (hpoint : ∀ c ∈ rest.head?, c ≠ '.') : fraction (cs ++ rest) = some (nanosOf ds, rest) := by
  cases h with
  | absent =>
    unfold fraction
    rw [List.nil_append]
    split
    · exact absurd rfl (hpoint '.' rfl)
    · rfl
  | point hdigits hne =>
    rw [List.cons_append, fraction, takeWhile_append_of_stop hdigits hrest,
      dropWhile_append_of_stop hdigits hrest, if_neg hne]
    rfl

theorem exists_fraction (h : fraction cs = some (n, rest)) :
    ∃ point ds, cs = point ++ rest ∧ Fraction point ds ∧ nanosOf ds = n := by
  unfold fraction at h
  split at h
  · dsimp only at h
    split at h
    · cases h
    · rename_i hne
      obtain ⟨hvalue, hrest⟩ := Prod.mk.inj (Option.some.inj h)
      refine ⟨_, _, ?_, .point (all_takeWhile _ _) hne, hvalue⟩
      rw [← hrest, List.cons_append, List.takeWhile_append_dropWhile]
  · obtain ⟨hvalue, hrest⟩ := Prod.mk.inj (Option.some.inj h)
    exact ⟨[], [], hrest, .absent, hvalue⟩

/-- A zone is there, and it is not taken for a part of the fraction in front of it. -/
theorem Zone.head? {offset : Int} (h : Zone cs offset) :
    cs ≠ [] ∧ NoDigit cs ∧ ∀ c ∈ cs.head?, c ≠ '.' := by
  have hcons : ∀ {c : Char} {cs : List Char}, c.isDigit = false → c ≠ '.' →
      c :: cs ≠ [] ∧ NoDigit (c :: cs) ∧ ∀ d ∈ (c :: cs).head?, d ≠ '.' := by
    intro c cs hdigit hpoint
    exact ⟨List.cons_ne_nil _ _, noDigit_cons hdigit, by simpa using hpoint⟩
  cases h with
  | utc hc => rcases hc with rfl | rfl <;> exact hcons (by decide) (by decide)
  | offset hc => rcases hc with rfl | rfl | rfl <;> exact hcons (by decide) (by decide)

theorem Zone.read {offset : Int} (h : Zone cs offset) : zone cs = some (offset, []) := by
  cases h with
  | utc hc => rcases hc with rfl | rfl <;> rfl
  | offset hc hhours hminutes hbound =>
    have hend := hminutes.read []
    rw [List.append_nil] at hend
    rcases hc with rfl | rfl | rfl <;>
      simp [zone, hhours.read, mark_cons, hend, hbound]

theorem zone_of_read {offset : Int} (h : zone cs = some (offset, [])) : Zone cs offset := by
  unfold zone at h
  split at h
  · obtain ⟨rfl, rfl⟩ := Prod.mk.inj (Option.some.inj h)
    exact .utc (.inl rfl)
  · obtain ⟨rfl, rfl⟩ := Prod.mk.inj (Option.some.inj h)
    exact .utc (.inr rfl)
  · split at h
    · rename_i hc
      simp only [Option.bind_eq_bind, Option.bind_eq_some_iff, Prod.exists, mark_eq_some_iff] at h
      obtain ⟨_, _, readHours, _, rfl, _, _, readMinutes, h⟩ := h
      obtain ⟨hours, rfl, hhours, rfl⟩ := exists_fixed readHours
      obtain ⟨minutes, rfl, hminutes, rfl⟩ := exists_fixed readMinutes
      split at h
      · rename_i hbound
        obtain ⟨rfl, rfl⟩ := Prod.mk.inj (Option.some.inj h)
        rw [List.append_nil]
        exact .offset hc hhours hminutes hbound
      · cases h
    · cases h
  · cases h

/-! ## Whole forms -/

/-- What is behind a part that has been read is read next. -/
theorem bind_of_eq_some {α β : Type} {x : Option α} {a : α} {next : α → Option β}
    (h : x = some a) : (x >>= next) = next a := by
  rw [h]
  rfl

theorem Zoned.read {t : LocalTime} (h : Zoned cs t ds) :
    readZoned cs = some { t with nanos := nanosOf ds } := by
  obtain ⟨hyear, hmonth, hday, hsep, hhour, hminute, hsecond, hpoint, hzone⟩ := h
  obtain ⟨-, hzoneDigit, hzonePoint⟩ := hzone.head?
  refine (bind_of_eq_some (hyear.read _)).trans ?_
  refine (bind_of_eq_some (mark_cons _)).trans ?_
  refine (bind_of_eq_some (hmonth.read _)).trans ?_
  refine (bind_of_eq_some (mark_cons _)).trans ?_
  refine (bind_of_eq_some (hday.read _)).trans ?_
  refine (bind_of_eq_some (dateEnd_eq_some_iff.mpr ⟨_, hsep, rfl⟩)).trans ?_
  refine (bind_of_eq_some (hhour.read _)).trans ?_
  refine (bind_of_eq_some (mark_cons _)).trans ?_
  refine (bind_of_eq_some (hminute.read _)).trans ?_
  refine (bind_of_eq_some (mark_cons _)).trans ?_
  refine (bind_of_eq_some (hsecond.read _)).trans ?_
  refine (bind_of_eq_some (hpoint.read hzoneDigit hzonePoint)).trans ?_
  exact bind_of_eq_some hzone.read

theorem exists_zoned {u : LocalTime} (h : readZoned cs = some u) :
    ∃ t ds, Zoned cs t ds ∧ u = { t with nanos := nanosOf ds } := by
  unfold readZoned at h
  obtain ⟨⟨_, _⟩, readYear, h⟩ := Option.bind_eq_some_iff.mp h
  obtain ⟨_, hyearEnd, h⟩ := Option.bind_eq_some_iff.mp h
  obtain ⟨⟨_, _⟩, readMonth, h⟩ := Option.bind_eq_some_iff.mp h
  obtain ⟨_, hmonthEnd, h⟩ := Option.bind_eq_some_iff.mp h
  obtain ⟨⟨_, _⟩, readDay, h⟩ := Option.bind_eq_some_iff.mp h
  obtain ⟨_, hdayEnd, h⟩ := Option.bind_eq_some_iff.mp h
  obtain ⟨⟨_, _⟩, readHour, h⟩ := Option.bind_eq_some_iff.mp h
  obtain ⟨_, hhourEnd, h⟩ := Option.bind_eq_some_iff.mp h
  obtain ⟨⟨_, _⟩, readMinute, h⟩ := Option.bind_eq_some_iff.mp h
  obtain ⟨_, hminuteEnd, h⟩ := Option.bind_eq_some_iff.mp h
  obtain ⟨⟨_, _⟩, readSecond, h⟩ := Option.bind_eq_some_iff.mp h
  obtain ⟨⟨_, _⟩, readPoint, h⟩ := Option.bind_eq_some_iff.mp h
  obtain ⟨⟨_, _⟩, readZone, h⟩ := Option.bind_eq_some_iff.mp h
  obtain rfl := mark_eq_some_iff.mp hyearEnd
  obtain rfl := mark_eq_some_iff.mp hmonthEnd
  obtain ⟨_, hsep, rfl⟩ := dateEnd_eq_some_iff.mp hdayEnd
  obtain rfl := mark_eq_some_iff.mp hhourEnd
  obtain rfl := mark_eq_some_iff.mp hminuteEnd
  obtain ⟨year, rfl, hyear, rfl⟩ := exists_fixed readYear
  obtain ⟨month, rfl, hmonth, rfl⟩ := exists_fixed readMonth
  obtain ⟨day, rfl, hday, rfl⟩ := exists_fixed readDay
  obtain ⟨hour, rfl, hhour, rfl⟩ := exists_fixed readHour
  obtain ⟨minute, rfl, hminute, rfl⟩ := exists_fixed readMinute
  obtain ⟨second, rfl, hsecond, rfl⟩ := exists_fixed readSecond
  obtain ⟨point, ds, rfl, hpoint, rfl⟩ := exists_fraction readPoint
  dsimp only at h
  split at h
  · rename_i hend
    have hzone := zone_of_read (hend ▸ readZone)
    exact ⟨_, ds, .mk hyear hmonth hday hsep hhour hminute hsecond hpoint hzone,
      (Option.some.inj h).symm⟩
  · cases h

theorem ToMinute.read {t : LocalTime} (h : ToMinute cs t) (hrest : NoDigit rest) :
    readMinute (cs ++ rest) = some (t, rest) := by
  obtain ⟨hyear, hmonth, hday, hhour, hminute⟩ := h
  simp [readMinute, hyear.read (noDigit_cons (c := '-') (by decide)),
    hmonth.read (noDigit_cons (c := '-') (by decide)),
    hday.read (noDigit_cons (c := 'T') (by decide)),
    hhour.read (noDigit_cons (c := ':') (by decide)), hminute.read hrest, mark_cons]

theorem exists_toMinute {t : LocalTime} (h : readMinute cs = some (t, rest)) :
    ∃ start, cs = start ++ rest ∧ ToMinute start t := by
  simp only [readMinute, Option.bind_eq_bind, Option.bind_eq_some_iff, Prod.exists,
    mark_eq_some_iff] at h
  obtain ⟨_, _, readYear, _, rfl, _, _, readMonth, _, rfl, _, _, readDay, _, rfl, _, _, readHour, _,
    rfl, _, _, readMinute, h⟩ := h
  obtain ⟨year, rfl, hyear⟩ := exists_year readYear
  obtain ⟨month, rfl, hmonth⟩ := exists_short readMonth
  obtain ⟨day, rfl, hday⟩ := exists_short readDay
  obtain ⟨hour, rfl, hhour⟩ := exists_short readHour
  obtain ⟨minute, rfl, hminute⟩ := exists_short readMinute
  obtain ⟨rfl, rfl⟩ := Prod.mk.inj (Option.some.inj h)
  refine ⟨_, ?_, .mk hyear hmonth hday hhour hminute⟩
  simp

/-! ## One form for each text -/

theorem Fixed.short (h : Fixed width cs) (hwidth : 0 < width) :
    Short width cs (Text.digitsValue cs) := by
  have hne : cs ≠ [] := List.ne_nil_of_length_pos (h.length ▸ hwidth)
  exact .mk (List.forall_mem_nil _) h.digits hne (Nat.le_of_eq h.length)

/-- The readers of the other forms get as far as the zone. -/
theorem Zoned.readMinute {t : LocalTime} (h : Zoned cs t ds) :
    readMinute cs = none ∨ ∃ start second point zone offset, Fixed 2 second ∧ Fraction point ds ∧
      Zone zone offset ∧ readMinute cs = some (start, ':' :: (second ++ (point ++ zone))) := by
  obtain ⟨hyear, hmonth, hday, hsep, hhour, hminute, hsecond, hpoint, hzone⟩ := h
  rename_i second sep point zone offset
  have hyear := Year.unsigned (hyear.short (by decide))
  have hmonth := hmonth.short (by decide)
  have hday := hday.short (by decide)
  have hhour := hhour.short (by decide)
  have hminute := hminute.short (by decide)
  by_cases hT : sep = 'T'
  · subst hT
    right
    have hstart := ToMinute.mk hyear hmonth hday hhour hminute
    have hcolon : NoDigit (':' :: (second ++ (point ++ zone))) := noDigit_cons (by decide)
    have hread := hstart.read hcolon
    simp only [List.append_assoc, List.cons_append] at hread
    exact ⟨_, second, point, zone, offset, hsecond, hpoint, hzone, hread⟩
  · left
    have hsepDigit : sep.isDigit = false := by rcases hsep with rfl | rfl | rfl <;> decide
    simp [Timestamp.readMinute, hyear.read (noDigit_cons (c := '-') (by decide)),
      hmonth.read (noDigit_cons (c := '-') (by decide)), hday.read (noDigit_cons hsepDigit), mark,
      hT]

theorem Zoned.reads_no_other {t : LocalTime} (h : Zoned cs t ds) :
    readSeconds cs = none ∧ readMinutes cs = none := by
  rcases h.readMinute with
    hnone | ⟨start, second, point, zone, offset, hsecond, hpoint, hzone, hread⟩
  · simp [readSeconds, readMinutes, hnone]
  · obtain ⟨hne, hdigit, hdot⟩ := hzone.head?
    have hnumber := (hsecond.short (by decide)).read (hpoint.noDigit hdigit)
    simp [readSeconds, readMinutes, hread, mark_cons, hnumber, hpoint.read hdigit hdot, hne]

theorem readZoned_eq_none (h : readSeconds cs ≠ none ∨ readMinutes cs ≠ none) :
    readZoned cs = none := by
  refine Option.eq_none_iff_forall_ne_some.mpr fun u hu => ?_
  obtain ⟨t, ds, hzoned, -⟩ := exists_zoned hu
  obtain ⟨hseconds, hminutes⟩ := hzoned.reads_no_other
  rcases h with h | h
  · exact h hseconds
  · exact h hminutes

/-- A text in one of the forms is read if the date and time exist.  Of its fraction, nine digits
count. -/
theorem readLocal?_of_writes {t : LocalTime} (h : Writes cs t ds) :
    readLocal? cs = if t.Valid then some { t with nanos := nanosOf ds } else none := by
  have hvalid : ∀ u : LocalTime, u = { t with nanos := nanosOf ds } →
      (some u).filter (fun t => decide t.Valid) =
        if t.Valid then some { t with nanos := nanosOf ds } else none := by
    rintro u rfl
    rw [Option.filter_some]
    exact if_congr decide_eq_true_iff rfl rfl
  cases h with
  | zoned h =>
    obtain ⟨hseconds, hminutes⟩ := h.reads_no_other
    simp only [readLocal?, h.read, hseconds, hminutes, hvalid _ rfl, Option.filter_none,
      Option.or_none]
  | seconds hstart hsecond hpoint =>
    rename_i start number point t second
    have hcolon : NoDigit (':' :: (number ++ point)) := noDigit_cons (by decide)
    have hminute := hstart.read hcolon
    have hnumber := hsecond.read (hpoint.noDigit noDigit_nil)
    have hfraction := hpoint.read noDigit_nil (by simp)
    rw [List.append_nil] at hnumber hfraction
    have hseconds : readSeconds (start ++ ':' :: (number ++ point)) =
        some { t with second, nanos := nanosOf ds } := by
      simp [readSeconds, hminute, mark_cons, hnumber, hfraction]
    have hminutes : readMinutes (start ++ ':' :: (number ++ point)) = none := by
      simp [readMinutes, hminute]
    have hzoned := readZoned_eq_none (.inl (Option.ne_none_iff_exists'.mpr ⟨_, hseconds⟩))
    simp only [readLocal?, hseconds, hminutes, hzoned, hvalid _ rfl, Option.filter_none,
      Option.or_none, Option.none_or]
  | minutes h =>
    have hminute := h.read noDigit_nil
    rw [List.append_nil] at hminute
    have hminutes : readMinutes cs = some t := by simp [readMinutes, hminute]
    have hseconds : readSeconds cs = none := by simp [readSeconds, hminute, mark]
    have hnanos : t = { t with nanos := nanosOf [] } := by
      cases h
      rfl
    have hzoned := readZoned_eq_none (.inr (Option.ne_none_iff_exists'.mpr ⟨_, hminutes⟩))
    simp only [readLocal?, hminutes, hseconds, hzoned, hvalid _ hnanos, Option.filter_none,
      Option.none_or]

/-- What is read is in one of the forms. -/
theorem exists_writes_of_readLocal? {u : LocalTime} (h : readLocal? cs = some u) :
    ∃ t ds, Writes cs t ds ∧ t.Valid ∧ u = { t with nanos := nanosOf ds } := by
  suffices hform : ∃ t ds, Writes cs t ds by
    obtain ⟨t, ds, hwrites⟩ := hform
    rw [readLocal?_of_writes hwrites] at h
    split at h
    · rename_i hvalid
      exact ⟨t, ds, hwrites, hvalid, (Option.some.inj h).symm⟩
    · cases h
  simp only [readLocal?, Option.or_eq_some_iff, Option.filter_eq_some_iff] at h
  rcases h with ⟨hzoned, -⟩ | ⟨-, ⟨hseconds, -⟩ | ⟨-, hminutes, -⟩⟩
  · obtain ⟨t, ds, hzoned, -⟩ := exists_zoned hzoned
    exact ⟨t, ds, .zoned hzoned⟩
  · simp only [readSeconds, Option.bind_eq_bind, Option.bind_eq_some_iff, Prod.exists,
      mark_eq_some_iff] at hseconds
    obtain ⟨_, _, readStart, _, rfl, _, _, readSecond, _, _, readPoint, hend⟩ := hseconds
    obtain ⟨start, rfl, hstart⟩ := exists_toMinute readStart
    obtain ⟨number, rfl, hsecond⟩ := exists_short readSecond
    obtain ⟨point, ds, rfl, hpoint, -⟩ := exists_fraction readPoint
    split at hend
    · rename_i hnil
      rw [hnil, List.append_nil]
      exact ⟨_, ds, .seconds hstart hsecond hpoint⟩
    · cases hend
  · simp only [readMinutes, Option.bind_eq_bind, Option.bind_eq_some_iff, Prod.exists] at hminutes
    obtain ⟨_, _, readStart, hend⟩ := hminutes
    obtain ⟨start, rfl, hstart⟩ := exists_toMinute readStart
    split at hend
    · rename_i hnil
      rw [hnil, List.append_nil]
      exact ⟨_, [], .minutes hstart⟩
    · cases hend

end

end Timestamp
end Sift
