import Sift.Pattern.Class

/-!
The code points of a class as a list of ranges, and the encoded form of ranges.

A list of ranges is in normal form if the ranges ascend and there is a gap between any two.
`Class.extent` writes a class in this form; `encodings` lists the sequences of byte ranges that
encode the characters of a range.
-/

namespace Sift
namespace Pattern

/-! ## Ranges -/

/-- Joins ranges in ascending order where they overlap or touch. -/
def glue : Nat × Nat → List (Nat × Nat) → List (Nat × Nat)
  | r, [] => [r]
  | r, s :: rest =>
    if s.1 ≤ r.2 + 1 then glue (r.1, Nat.max r.2 s.2) rest else r :: glue s rest

/-- The normal form of a list of ranges. -/
def normalRanges (rs : List (Nat × Nat)) : List (Nat × Nat) :=
  match (rs.filter fun (first, last) => first ≤ last).mergeSort fun r s => r.1 ≤ s.1 with
  | [] => []
  | r :: rest => glue r rest

/-- The code points from `start` on that are in none of the ranges of a normal form. -/
def gaps : Nat → List (Nat × Nat) → List (Nat × Nat)
  | start, [] => if start ≤ 0x10ffff then [(start, 0x10ffff)] else []
  | start, (first, last) :: rest =>
    if start < first then (start, first - 1) :: gaps (last + 1) rest else gaps (last + 1) rest

/-- The code points that differ in case only from one in the ranges. -/
def caseRanges (rs : List (Nat × Nat)) : List (Nat × Nat) :=
  let isIn (c : Nat) : Bool := rs.any fun (first, last) => first ≤ c && c ≤ last
  let roots := Unicode.foldingTable.flatMap fun (first, last, step, shift) =>
    (List.range ((last - first) / step + 1)).filterMap fun i =>
      let c := first + i * step
      if isIn c || isIn (c - shift) then some (c - shift) else none
  roots.flatMap fun root => (Unicode.caseVariants root).map fun c => (c, c)

/-- The ASCII letters that differ in case only from one in the ranges. -/
def asciiCaseRanges (rs : List (Nat × Nat)) : List (Nat × Nat) :=
  (List.range 0x80).filterMap fun c =>
    let d := Class.swapAsciiCase c
    if rs.any fun (first, last) => first ≤ d && d ≤ last then some (c, c) else none

/-- The code points of a class in normal form. -/
def Class.extent : Class → List (Nat × Nat)
  | range first last => normalRanges [(first, last)]
  | ranges rs => normalRanges rs
  | union a b => normalRanges (a.extent ++ b.extent)
  | inter a b => gaps 0 (normalRanges (gaps 0 a.extent ++ gaps 0 b.extent))
  | compl a => gaps 0 a.extent
  | anyCase a => normalRanges (a.extent ++ caseRanges a.extent)
  | anyAsciiCase a => normalRanges (a.extent ++ asciiCaseRanges a.extent)

/-! ## Encoded ranges -/

/-- The sequences of ranges of digits to the base 64 that write the numbers from `first` to `last`
with `more` digits after the first one.  The first digit is written with `lead` added to it, the
others with 128. -/
def digitRanges (lead : Nat) : Nat → Nat → Nat → List (List (Nat × Nat))
  | 0, first, last => [[(lead + first, lead + last)]]
  | more + 1, first, last =>
    let unit := Nat.pow 64 (more + 1)
    let low := first / unit
    let high := last / unit
    let within (digit first last : Nat) : List (List (Nat × Nat)) :=
      (digitRanges 0x80 more first last).map ((lead + digit, lead + digit) :: ·)
    if low = high then within low (first % unit) (last % unit)
    else
      let startsWhole := first % unit = 0
      let endsWhole := last % unit = unit - 1
      let wholeFrom := if startsWhole then low else low + 1
      let wholeTo := if endsWhole then high + 1 else high
      (if startsWhole then [] else within low (first % unit) (unit - 1)) ++
        (if wholeFrom < wholeTo then
          [(lead + wholeFrom, lead + wholeTo - 1) :: List.replicate (more + 1) (0x80, 0xbf)]
         else []) ++
        (if endsWhole then [] else within high 0 (last % unit))

/-- The code points with encoded forms of one length, each with the number of bytes after the
first one and the least first byte.  Surrogates have no encoded form. -/
def encodedLengths : List ((Nat × Nat) × Nat × Nat) :=
  [((0, 0x7f), 0, 0), ((0x80, 0x7ff), 1, 0xc0), ((0x800, 0xd7ff), 2, 0xe0),
   ((0xe000, 0xffff), 2, 0xe0), ((0x10000, 0x10ffff), 3, 0xf0)]

/-- The sequences of byte ranges that encode the characters of a range. -/
def encodings (r : Nat × Nat) : List (List (Nat × Nat)) :=
  encodedLengths.flatMap fun ((least, most), more, lead) =>
    let first := Nat.max r.1 least
    let last := Nat.min r.2 most
    if first ≤ last then digitRanges lead more first last else []

end Pattern
end Sift
