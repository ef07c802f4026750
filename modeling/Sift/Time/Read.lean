import Sift.Text.Blank
import Sift.Time.Timestamp

/-!
The three written forms of a timestamp.

The first form is RFC 3339: fixed widths, and an offset or `Z` at the end.  The other two stand
for UTC without saying so, with and without seconds; white space may precede each number, and
numbers may be shorter.  A text is read in the first form that fits.
-/

namespace Sift
namespace Timestamp

/-- Exactly `n` digits at the start of a text. -/
def fixedDigits (n : Nat) (cs : List Char) : Option (Nat × List Char) :=
  let ds := cs.take n
  if ds.length = n ∧ ds.all Char.isDigit then some (Text.digitsValue ds, cs.drop n) else none

/-- A number of one to `width` digits, after any white space. -/
def shortNumber (width : Nat) (cs : List Char) : Option (Nat × List Char) :=
  let cs := cs.dropWhile Text.isBlank
  let ds := (cs.take width).takeWhile Char.isDigit
  if ds = [] then none else some (Text.digitsValue ds, cs.drop ds.length)

/-- A run of digits of any length. -/
def longNumber (cs : List Char) : Option (Nat × List Char) :=
  let ds := cs.takeWhile Char.isDigit
  if ds = [] then none else some (Text.digitsValue ds, cs.dropWhile Char.isDigit)

/-- A year: up to four digits, or a sign and any number of digits. -/
def shortYear (cs : List Char) : Option (Int × List Char) :=
  match cs.dropWhile Text.isBlank with
  | '-' :: r => (longNumber r).map fun (n, r) => (-(n : Int), r)
  | '+' :: r => (longNumber r).map fun (n, r) => ((n : Int), r)
  | r => (shortNumber 4 r).map fun (n, r) => ((n : Int), r)

/-- The character `c` at the start of a text. -/
def mark (c : Char) : List Char → Option (List Char)
  | d :: r => if d = c then some r else none
  | [] => none

/-- An optional fraction of a second in nanoseconds.  Digits after the ninth say nothing. -/
def fraction : List Char → Option (Nat × List Char)
  | '.' :: r =>
    let ds := r.takeWhile Char.isDigit
    if ds = [] then none
    else
      let kept := ds.take 9
      some (Text.digitsValue kept * Nat.pow 10 (9 - kept.length), r.dropWhile Char.isDigit)
  | r => some (0, r)

/-- An offset from UTC in seconds. -/
def zone : List Char → Option (Int × List Char)
  | 'Z' :: r | 'z' :: r => some (0, r)
  | c :: r =>
    if c = '+' ∨ c = '-' ∨ c = '−' then do
      let (hours, r) ← fixedDigits 2 r
      let r ← mark ':' r
      let (minutes, r) ← fixedDigits 2 r
      if hours < 24 ∧ minutes < 60 then
        let size : Int := (hours * 3600 + minutes * 60 : Nat)
        return (if c = '+' then size else -size, r)
      else none
    else none
  | [] => none

/-- The mark between the date and the time in the first form. -/
def dateEnd : List Char → Option (List Char)
  | c :: r => if c = 'T' ∨ c = 't' ∨ c = ' ' then some r else none
  | [] => none

/-- The first form. -/
def readZoned (cs : List Char) : Option LocalTime := do
  let (year, cs) ← fixedDigits 4 cs
  let cs ← mark '-' cs
  let (month, cs) ← fixedDigits 2 cs
  let cs ← mark '-' cs
  let (day, cs) ← fixedDigits 2 cs
  let cs ← dateEnd cs
  let (hour, cs) ← fixedDigits 2 cs
  let cs ← mark ':' cs
  let (minute, cs) ← fixedDigits 2 cs
  let cs ← mark ':' cs
  let (second, cs) ← fixedDigits 2 cs
  let (nanos, cs) ← fraction cs
  let (offset, cs) ← zone cs
  if cs = [] then return ⟨⟨year, month, day⟩, hour, minute, second, nanos, offset⟩ else none

/-- The date, the hour and the minute of the second and third form, and what follows. -/
def readMinute (cs : List Char) : Option (LocalTime × List Char) := do
  let (year, cs) ← shortYear cs
  let cs ← mark '-' cs
  let (month, cs) ← shortNumber 2 cs
  let cs ← mark '-' cs
  let (day, cs) ← shortNumber 2 cs
  let cs ← mark 'T' cs
  let (hour, cs) ← shortNumber 2 cs
  let cs ← mark ':' cs
  let (minute, cs) ← shortNumber 2 cs
  return (⟨⟨year, month, day⟩, hour, minute, 0, 0, 0⟩, cs)

/-- The second form. -/
def readSeconds (cs : List Char) : Option LocalTime := do
  let (t, cs) ← readMinute cs
  let cs ← mark ':' cs
  let (second, cs) ← shortNumber 2 cs
  let (nanos, cs) ← fraction cs
  if cs = [] then return { t with second, nanos } else none

/-- The third form. -/
def readMinutes (cs : List Char) : Option LocalTime := do
  let (t, cs) ← readMinute cs
  if cs = [] then return t else none

/-- The point in time that a text names in one of the three forms. -/
def read? (text : String) : Option Timestamp :=
  let valid (form : List Char → Option LocalTime) :=
    (form text.toList).filter fun t => decide t.Valid
  ((valid readZoned).or ((valid readSeconds).or (valid readMinutes))).map LocalTime.toTimestamp

end Timestamp
end Sift
