import Sift.Time.Read

/-!
Points in time as documents write them.

The form is that of RFC 3339, with any ASCII character between the date and the time, and with
offsets up to 25 hours.  A leap second ends a month in UTC; it stands for the last nanosecond of
the second before it.
-/

namespace Sift
namespace Timestamp

/-- An offset from UTC in seconds; the sign is an ASCII character. -/
def wideZone : List Char → Option (Int × List Char)
  | 'Z' :: r | 'z' :: r => some (0, r)
  | c :: r =>
    if c = '+' ∨ c = '-' then do
      let (hours, r) ← fixedDigits 2 r
      let r ← mark ':' r
      let (minutes, r) ← fixedDigits 2 r
      if hours ≤ 25 ∧ minutes < 60 then
        let size : Int := (hours * 3600 + minutes * 60 : Nat)
        return (if c = '+' then size else -size, r)
      else none
    else none
  | [] => none

/-- One ASCII character. -/
def anyMark : List Char → Option (List Char)
  | c :: r => if c.toNat < 0x80 then some r else none
  | [] => none

/-- The parts of the form. -/
def instantParts (cs : List Char) : Option LocalTime := do
  let (year, cs) ← fixedDigits 4 cs
  let cs ← mark '-' cs
  let (month, cs) ← fixedDigits 2 cs
  let cs ← mark '-' cs
  let (day, cs) ← fixedDigits 2 cs
  let cs ← anyMark cs
  let (hour, cs) ← fixedDigits 2 cs
  let cs ← mark ':' cs
  let (minute, cs) ← fixedDigits 2 cs
  let cs ← mark ':' cs
  let (second, cs) ← fixedDigits 2 cs
  let (nanos, cs) ← fraction cs
  let (offset, cs) ← wideZone cs
  if cs = [] then return ⟨⟨year, month, day⟩, hour, minute, second, nanos, offset⟩ else none

/-- The second is the last one of a month in UTC. -/
def endsMonth (seconds : Int) : Bool :=
  (seconds + 1) % 86400 = 0 && (Calendar.Date.ofDays ((seconds + 1) / 86400)).day = 1

/-- The point in time that a text names, in milliseconds; what is finer is cut off towards the
epoch. -/
def readMillis? (text : String) : Option Int := do
  let t ← instantParts text.toList
  if ¬ t.Valid then none
  else if t.second = 60 then
    let last := { t with second := 59 }.toTimestamp.seconds
    if endsMonth last then return Int.tdiv (last * 1000000000 + 999999999) 1000000 else none
  else
    let p := t.toTimestamp
    return Int.tdiv (p.seconds * 1000000000 + p.nanos) 1000000

end Timestamp
end Sift
