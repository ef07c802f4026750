/-!
JSON values.

Whole numbers and floating point numbers are different here, because a counter may be read from
`3` but not from `3.0`.
-/

namespace Sift

inductive Json where
  | null
  | bool (value : Bool)
  | integer (value : Int)
  /-- The finite number `digits * 10 ^ exponent`, negated if asked for. -/
  | decimal (negative : Bool) (digits : Nat) (exponent : Int)
  | string (text : String)
  | array (items : List Json)
  /-- The members of an object, each name once. -/
  | object (members : List (String × Json))
  deriving Inhabited

namespace Json

/-- The member of an object under a name. -/
def member? (members : List (String × Json)) (name : String) : Option Json :=
  members.lookup name

def asText? : Json → Option String
  | string text => some text
  | _ => none

def asBool? : Json → Option Bool
  | bool value => some value
  | _ => none

/-- A whole number from zero up to, but not including, the bound. -/
def asCounter? (bound : Nat) : Json → Option Nat
  | integer value => if 0 ≤ value ∧ value < bound then some value.toNat else none
  | _ => none

def asArray? : Json → Option (List Json)
  | array items => some items
  | _ => none

end Json
end Sift
