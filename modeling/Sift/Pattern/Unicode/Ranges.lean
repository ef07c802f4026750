/-!
Sets of code points written as text.

A set is written as a list of numbers: the gap in front of each range and the number of its code
points less one.  A number is written with letters to the base 26, and its last digit is a
capital.
-/

namespace Sift
namespace Pattern
namespace Unicode

/-- The numbers that a text writes; `n` is the number whose digits are being read. -/
def readNumbers : Nat → List Char → List Nat
  | _, [] => []
  | n, c :: cs =>
    if c.isUpper then (26 * n + (c.toNat - 'A'.toNat)) :: readNumbers 0 cs
    else readNumbers (26 * n + (c.toNat - 'a'.toNat)) cs

/-- The closed ranges whose gaps and lengths are listed, from the code point `start` on. -/
def rangesOf : Nat → List Nat → List (Nat × Nat)
  | start, gap :: length :: rest =>
    (start + gap, start + gap + length) :: rangesOf (start + gap + length + 1) rest
  | _, _ => []

/-- The closed ranges of code points that the lines of a text write. -/
def readRanges (lines : List String) : List (Nat × Nat) :=
  rangesOf 0 (readNumbers 0 (lines.flatMap String.toList))

/-- The ranges of the class with a name in a table. -/
def find? (table : List (List String × List String)) (name : String) :
    Option (List (Nat × Nat)) :=
  (table.find? fun entry => entry.1.contains name).map fun entry => readRanges entry.2

end Unicode
end Pattern
end Sift
