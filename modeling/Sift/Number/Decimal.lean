import Sift.Number.Binary
import Sift.Text.Ascii

/-!
Decimal floating point literals.

A literal is an optional sign before either a word for infinity or NaN, or digits with an
optional point and an optional exponent.  Digits may be missing on one side of the point but not
on both, and an exponent has at least one digit.
-/

namespace Sift

/-- The number `digits * 10 ^ exponent`. -/
structure Decimal where
  digits : Nat
  exponent : Int
  deriving DecidableEq, Repr

namespace Decimal

/-- The number as a quotient of two naturals, in units of `2 ^ (-scale)`. -/
def ratio (scale : Nat) (x : Decimal) : Nat × Nat :=
  if 0 ≤ x.exponent then (x.digits * Nat.pow 10 x.exponent.toNat * Nat.pow 2 scale, 1)
  else (x.digits * Nat.pow 2 scale, Nat.pow 10 (-x.exponent).toNat)

/-- The place of the leading digit: the number is below ten to this power. -/
def reach (x : Decimal) : Int := (Nat.toDigits 10 x.digits).length + x.exponent

/-- The nearest number of the format, ties to even.  A number that is beyond the range of every
format is settled by its size alone, without writing it out. -/
def toBinary (f : Format) (negative : Bool) (x : Decimal) : Binary f :=
  if x.digits = 0 then .zero f negative
  else if 400 < x.reach then .infinite f negative
  else if x.reach < -400 then .zero f negative
  else
    let (n, d) := x.ratio f.scale
    .nearest f negative n d

/-- Why a text is not a floating point number. -/
inductive Fault where
  | empty
  | invalid
  deriving DecidableEq, Repr

def Fault.message : Fault → String
  | .empty => "cannot parse float from empty string"
  | .invalid => "invalid float literal"

/-- The sign in front of a literal, and what follows it. -/
def sign : List Char → Bool × List Char
  | '+' :: cs => (false, cs)
  | '-' :: cs => (true, cs)
  | cs => (false, cs)

/-- Reads what follows the digits of a literal: nothing, or a letter `e` and the exponent. -/
def readExponent : List Char → Option Int
  | [] => some 0
  | c :: cs =>
    if c = 'e' ∨ c = 'E' then
      let (negative, ds) := sign cs
      if ds ≠ [] ∧ ds.all Char.isDigit then
        some (if negative then -(Text.digitsValue ds : Int) else Text.digitsValue ds)
      else none
    else none

/-- Reads an unsigned literal made of digits. -/
def readDigits (cs : List Char) : Option Decimal :=
  let whole := cs.takeWhile Char.isDigit
  let (fraction, rest) :=
    match cs.dropWhile Char.isDigit with
    | '.' :: r => (r.takeWhile Char.isDigit, r.dropWhile Char.isDigit)
    | r => ([], r)
  if whole = [] ∧ fraction = [] then none
  else (readExponent rest).map fun e =>
    ⟨Text.digitsValue (whole ++ fraction), e - fraction.length⟩

/-- Reads a literal as a number of the format. -/
def read (f : Format) (text : String) : Except Fault (Binary f) :=
  if text.isEmpty then .error .empty
  else
    let (negative, cs) := sign text.toList
    match String.ofList (cs.map Char.toLower) with
    | "inf" | "infinity" => .ok (.infinite f negative)
    | "nan" => .ok (.quietNaN f negative)
    | _ =>
      match readDigits cs with
      | some x => .ok (x.toBinary f negative)
      | none => .error .invalid

end Decimal
end Sift
