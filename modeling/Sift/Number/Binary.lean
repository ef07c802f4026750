/-!
Binary floating point numbers as sign and magnitude.

The magnitude of a number is its bit pattern without the sign bit.  Read as a natural number it
grows with the value it stands for, so two numbers that are not NaN are compared by comparing
signed magnitudes.  Every finite value is a whole multiple of the least positive one, and
`units` is that multiple: all arithmetic here is on natural numbers.
-/

namespace Sift

/-- The widths of the exponent and the fraction of an interchange format. -/
structure Format where
  exponentBits : Nat
  fractionBits : Nat
  deriving DecidableEq, Repr

namespace Format

def single : Format := ⟨8, 23⟩

def double : Format := ⟨11, 52⟩

/-- How many magnitudes there are. -/
def span (f : Format) : Nat := Nat.pow 2 (f.exponentBits + f.fractionBits)

/-- The magnitude of infinity.  Those above it are NaNs. -/
def infinity (f : Format) : Nat := (Nat.pow 2 f.exponentBits - 1) * Nat.pow 2 f.fractionBits

/-- The least positive value is two to the power of minus this. -/
def scale (f : Format) : Nat := Nat.pow 2 (f.exponentBits - 1) - 2 + f.fractionBits

theorem span_pos (f : Format) : 0 < f.span := Nat.two_pow_pos _

theorem infinity_lt_span (f : Format) : f.infinity < f.span := by
  have h : Nat.pow 2 f.exponentBits - 1 < Nat.pow 2 f.exponentBits :=
    Nat.sub_lt (Nat.two_pow_pos _) (by decide)
  have e : f.span = Nat.pow 2 f.exponentBits * Nat.pow 2 f.fractionBits := Nat.pow_add ..
  rw [infinity, e]
  exact Nat.mul_lt_mul_of_pos_right h (Nat.two_pow_pos _)

/-- The value of a finite magnitude as a multiple of the least positive value. -/
def units (f : Format) (m : Nat) : Nat :=
  let e := m / Nat.pow 2 f.fractionBits
  let frac := m % Nat.pow 2 f.fractionBits
  if e = 0 then frac else (Nat.pow 2 f.fractionBits + frac) * Nat.pow 2 (e - 1)

/-- The quotient `n / d` rounded to a whole number, a half to the even neighbour. -/
def roundHalfEven (n d : Nat) : Nat :=
  let q := n / d
  let r := n % d
  if 2 * r < d then q
  else if d < 2 * r then q + 1
  else if q % 2 = 0 then q else q + 1

/-- The magnitude nearest to the quotient `n / d` of least positive values.  The significand is
cut at the place where it fills the fraction and its leading bit, or at the last place of the
format; a carry out of it moves into the exponent by itself. -/
def round (f : Format) (n d : Nat) : Nat :=
  let shift := Nat.log2 (n / d) - f.fractionBits
  min (shift * Nat.pow 2 f.fractionBits + roundHalfEven n (d * Nat.pow 2 shift)) f.infinity

theorem round_lt_span (f : Format) (n d : Nat) : f.round n d < f.span :=
  Nat.lt_of_le_of_lt (Nat.min_le_right _ _) f.infinity_lt_span

end Format

/-- A number of an interchange format. -/
structure Binary (f : Format) where
  negative : Bool
  magnitude : Fin f.span
  deriving DecidableEq

abbrev Single := Binary .single

abbrev Double := Binary .double

namespace Binary

variable {f : Format}

/-- The number nearest to the quotient `n / d` of least positive values, with the sign given. -/
def nearest (f : Format) (negative : Bool) (n d : Nat) : Binary f :=
  ⟨negative, f.round n d, f.round_lt_span n d⟩

/-- The number with the sign given and the magnitude `m`, cut to the width of the format. -/
def ofParts (negative : Bool) (m : Nat) : Binary f :=
  ⟨negative, m % f.span, Nat.mod_lt m f.span_pos⟩

def infinite (f : Format) (negative : Bool) : Binary f :=
  ⟨negative, f.infinity, f.infinity_lt_span⟩

def zero (f : Format) (negative : Bool) : Binary f :=
  ⟨negative, 0, f.span_pos⟩

/-- The NaN whose fraction is its leading bit alone. -/
def quietNaN (f : Format) (negative : Bool) : Binary f :=
  ofParts negative (f.infinity + Nat.pow 2 (f.fractionBits - 1))

def isNaN (x : Binary f) : Bool := f.infinity < x.magnitude

def isInfinite (x : Binary f) : Bool := x.magnitude.val = f.infinity

/-- The place of a number on the line.  Both zeros are at the origin. -/
def rank (x : Binary f) : Int :=
  if x.negative then -(x.magnitude : Int) else x.magnitude

/-- The order of two numbers, which a NaN does not take part in. -/
def compare? (x y : Binary f) : Option Ordering :=
  if x.isNaN || y.isNaN then none else some (compare x.rank y.rank)

/-- Numerical equality: the two zeros are equal, and a NaN equals nothing. -/
def same (x y : Binary f) : Bool := !x.isNaN && !y.isNaN && x.rank = y.rank

theorem same_iff_compare? {x y : Binary f} : x.same y = true ↔ x.compare? y = some .eq := by
  unfold same compare?
  cases hx : x.isNaN <;> cases hy : y.isNaN <;> simp

/-- The number nearest to an integer, ties to even. -/
def ofInt (f : Format) (z : Int) : Binary f :=
  nearest f (z < 0) (z.natAbs * Nat.pow 2 f.scale) 1

/-- The bit pattern: the sign bit above the magnitude. -/
def toBits (x : Binary f) : Nat :=
  (if x.negative then f.span else 0) + x.magnitude

def ofBits (f : Format) (bits : Nat) : Binary f :=
  ofParts (f.span ≤ bits) bits

end Binary

/-- The double with the same value.  A NaN keeps its sign and its fraction, and becomes quiet. -/
def Single.toDouble (x : Single) : Double :=
  if x.isNaN then
    let frac := (x.magnitude.val % Nat.pow 2 23) * Nat.pow 2 29
    .ofParts x.negative (Format.double.infinity + (Nat.pow 2 51 ||| frac))
  else if x.isInfinite then .infinite _ x.negative
  else .nearest _ x.negative (Format.single.units x.magnitude * Nat.pow 2 (1074 - 149)) 1

end Sift
