import Sift.Number.Decimal

/-!
The text of a floating point number: the fewest digits that read back as the number, and of
those the nearest to its value, written without an exponent.
-/

namespace Sift
namespace Binary

variable {f : Format}

/-- A decimal reads back as the magnitude `m`. -/
def readsBack (f : Format) (m : Nat) (x : Decimal) : Bool :=
  (x.toBinary f false).magnitude.val = m

/-- The exponent of the leading decimal digit of a positive value `n / d`. -/
def leadingPlace (n d : Nat) : Int :=
  if d ≤ n then (Nat.toDigits 10 (n / d)).length - 1
  else -((Nat.toDigits 10 ((d - 1) / n)).length : Int)

/-- The two neighbours of `n / d` among the decimals with the last digit at the place `e`, the
nearer first; the upper one comes first on a tie. -/
def neighbours (n d : Nat) (e : Int) : List Decimal :=
  let num := if 0 ≤ e then n else n * Nat.pow 10 (-e).toNat
  let den := if 0 ≤ e then d * Nat.pow 10 e.toNat else d
  let low : Decimal := ⟨num / den, e⟩
  let high : Decimal := ⟨num / den + 1, e⟩
  if 2 * (num % den) < den then [low, high] else [high, low]

/-- The decimal that is written for the finite magnitude `m`.  Grids of one, two, … digits are
tried until one holds a decimal that reads back; the value itself, written out, is the last
resort. -/
def shortest (f : Format) (m : Nat) : Decimal :=
  let n := f.units m
  let d := Nat.pow 2 f.scale
  let top := leadingPlace n d
  let grids := (List.range 17).flatMap fun k : Nat => neighbours n d (top - (k : Int))
  (grids.find? (readsBack f m)).getD ⟨n * Nat.pow 5 f.scale, -(f.scale : Int)⟩

end Binary

namespace Decimal

/-- The decimal digits of a number, without zeros at the end that only shift the point. -/
def trimmed (x : Decimal) : List Char × Int :=
  let ds := Nat.toDigits 10 x.digits
  let kept := (ds.reverse.dropWhile (· == '0')).reverse
  (kept, x.exponent + (ds.length - kept.length : Nat))

/-- Positional notation: zeros fill the places up to the point, and no point stands at the
end. -/
def positional (x : Decimal) : List Char :=
  let (ds, e) := x.trimmed
  let point := ds.length + e
  if 0 ≤ e then ds ++ List.replicate e.toNat '0'
  else if 0 < point then ds.take point.toNat ++ '.' :: ds.drop point.toNat
  else '0' :: '.' :: List.replicate (-point).toNat '0' ++ ds

end Decimal

namespace Binary

variable {f : Format}

/-- The text of a number.  A NaN shows no sign. -/
def text (x : Binary f) : String :=
  if x.isNaN then "NaN"
  else
    let body :=
      if x.isInfinite then "inf".toList
      else if x.magnitude.val = 0 then ['0']
      else (shortest f x.magnitude).positional
    String.ofList (if x.negative then '-' :: body else body)

end Binary
end Sift
