import Sift.Text.Ascii

/-!
Signed integers of a given width, read from decimal text.

A literal is an optional sign followed by at least one ASCII digit.  Characters are taken from
left to right, and the first one that is no digit or takes the number out of range decides the
fault.
-/

namespace Sift
namespace Integer

/-- Why a text is not an integer of the width asked for. -/
inductive Fault where
  | empty
  | invalidDigit
  | tooLarge
  | tooSmall
  deriving DecidableEq, Repr

def Fault.message : Fault → String
  | .empty => "cannot parse integer from empty string"
  | .invalidDigit => "invalid digit found in string"
  | .tooLarge => "number too large to fit in target type"
  | .tooSmall => "number too small to fit in target type"

/-- Appends the digits of a text to the number read so far, which may not pass `limit`;
`overflow` is the fault if it does. -/
def readDigits (limit : Nat) (overflow : Fault) : Nat → List Char → Except Fault Nat
  | n, [] => .ok n
  | n, c :: cs =>
    match Text.digit? c with
    | none => .error .invalidDigit
    | some d =>
      if 10 * n + d ≤ limit then readDigits limit overflow (10 * n + d) cs
      else .error overflow

/-- Reads a text as an integer of `width` bits in two's complement. -/
def read (width : Nat) (text : String) : Except Fault Int :=
  match text.toList with
  | [] => .error .empty
  | ['+'] => .error .invalidDigit
  | ['-'] => .error .invalidDigit
  | '+' :: cs => Int.ofNat <$> readDigits (Nat.pow 2 (width - 1) - 1) .tooLarge 0 cs
  | '-' :: cs => (fun n : Nat => -(n : Int)) <$> readDigits (Nat.pow 2 (width - 1)) .tooSmall 0 cs
  | cs => Int.ofNat <$> readDigits (Nat.pow 2 (width - 1) - 1) .tooLarge 0 cs

end Integer
end Sift
