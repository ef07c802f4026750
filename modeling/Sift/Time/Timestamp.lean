import Sift.Text.Ascii
import Sift.Time.Calendar

/-!
Points in time.

A timestamp is a count of seconds since 1970-01-01T00:00:00Z and a count of nanoseconds within
the second.  A leap second has no number of its own: it is the second before it with a thousand
million nanoseconds or more.
-/

namespace Sift

structure Timestamp where
  seconds : Int
  nanos : Nat
  deriving DecidableEq, Repr

/-- A date and a time of day, with the offset from UTC in seconds. -/
structure LocalTime where
  date : Calendar.Date
  hour : Nat
  minute : Nat
  second : Nat
  nanos : Nat
  offset : Int

namespace LocalTime

/-- The parts are those of a day of the calendar, and a minute may have a second 60. -/
def Valid (t : LocalTime) : Prop :=
  t.date.Valid ∧ -262143 ≤ t.date.year ∧ t.date.year ≤ 262142 ∧
    t.hour < 24 ∧ t.minute < 60 ∧ t.second ≤ 60

instance (t : LocalTime) : Decidable t.Valid :=
  inferInstanceAs (Decidable (_ ∧ _))

def toTimestamp (t : LocalTime) : Timestamp :=
  let minutes : Int := t.date.toDays * 1440 + (t.hour * 60 + t.minute : Nat)
  if t.second = 60 then ⟨minutes * 60 + 59 - t.offset, t.nanos + 1000000000⟩
  else ⟨minutes * 60 + t.second - t.offset, t.nanos⟩

end LocalTime

namespace Timestamp

/-- The milliseconds since the epoch; what is finer is cut off. -/
def toMillis (t : Timestamp) : Int := t.seconds * 1000 + (t.nanos / 1000000 : Nat)

/-- A year has four digits, and a sign where four digits do not hold it. -/
def yearText (year : Int) : List Char :=
  if 0 ≤ year ∧ year ≤ 9999 then Text.padded 4 year.toNat
  else (if year < 0 then '-' else '+') :: Text.padded 4 year.natAbs

/-- A fraction has no, three, six or nine digits, as many as it needs. -/
def fractionText (nanos : Nat) : List Char :=
  if nanos = 0 then []
  else if nanos % 1000000 = 0 then '.' :: Text.padded 3 (nanos / 1000000)
  else if nanos % 1000 = 0 then '.' :: Text.padded 6 (nanos / 1000)
  else '.' :: Text.padded 9 nanos

/-- The date and time in UTC, with the leap second as second 60. -/
def text (t : Timestamp) : String :=
  let date := Calendar.Date.ofDays (t.seconds / 86400)
  let time := (t.seconds % 86400).toNat
  let leap := t.nanos / 1000000000
  String.ofList
    (yearText date.year ++ '-' :: Text.padded 2 date.month ++ '-' :: Text.padded 2 date.day ++
      'T' :: Text.padded 2 (time / 3600) ++ ':' :: Text.padded 2 (time / 60 % 60) ++
      ':' :: Text.padded 2 (time % 60 + leap) ++ fractionText (t.nanos % 1000000000) ++ ['Z'])

end Timestamp
end Sift
