/-!
The proleptic Gregorian calendar.

A date is counted as days since 1970-01-01.  `daysBeforeYear` is the one closed formula; a year is
found from a day by an estimate that is off by at most one and then compared with that formula,
and a month by walking through the lengths of the months.
-/

namespace Sift
namespace Calendar

def isLeap (year : Int) : Bool :=
  year % 4 = 0 && (year % 100 ≠ 0 || year % 400 = 0)

/-- The lengths of the twelve months of a year. -/
def monthLengths (year : Int) : List Nat :=
  [31, if isLeap year then 29 else 28, 31, 30, 31, 30, 31, 31, 30, 31, 30, 31]

/-- The days from 0001-01-01 to the first day of a year. -/
def daysBeforeYear (year : Int) : Int :=
  let y := year - 1
  365 * y + y / 4 - y / 100 + y / 400

/-- The days from 0001-01-01 to 1970-01-01. -/
def epoch : Int := 719162

structure Date where
  year : Int
  month : Nat
  day : Nat
  deriving DecidableEq, Repr

namespace Date

/-- The month and the day exist in the year. -/
def Valid (d : Date) : Prop :=
  1 ≤ d.month ∧ 1 ≤ d.day ∧ ∃ n ∈ (monthLengths d.year)[d.month - 1]?, d.day ≤ n

instance (d : Date) : Decidable d.Valid :=
  match h : (monthLengths d.year)[d.month - 1]? with
  | none => isFalse (by simp [Valid, h])
  | some n =>
    if hd : 1 ≤ d.month ∧ 1 ≤ d.day ∧ d.day ≤ n then isTrue (by simpa [Valid, h] using hd)
    else isFalse (by simpa [Valid, h] using hd)

/-- The days of the year in front of a date. -/
def daysBefore (d : Date) : Nat :=
  ((monthLengths d.year).take (d.month - 1)).foldl (fun n length => n + length) (d.day - 1)

/-- The days from 1970-01-01 to a date. -/
def toDays (d : Date) : Int := daysBeforeYear d.year + d.daysBefore - epoch

end Date

/-- The year that holds the day `n` counted from 0001-01-01. -/
def yearOf (n : Int) : Int :=
  let guess := n * 400 / 146097 + 1
  if n < daysBeforeYear guess then guess - 1
  else if daysBeforeYear (guess + 1) ≤ n then guess + 1
  else guess

/-- The month and the day that lie `k` days after the first day of the month `m`. -/
def monthAndDay : List Nat → Nat → Nat → Nat × Nat
  | [], m, k => (m, k + 1)
  | n :: ns, m, k => if k < n then (m, k + 1) else monthAndDay ns (m + 1) (k - n)

/-- The date that lies `days` days after 1970-01-01. -/
def Date.ofDays (days : Int) : Date :=
  let n := days + epoch
  let year := yearOf n
  let (month, day) := monthAndDay (monthLengths year) 1 (n - daysBeforeYear year).toNat
  ⟨year, month, day⟩

end Calendar
end Sift
