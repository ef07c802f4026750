import Sift.Text.Ascii

/-!
The operators that compare a field with a value.
-/

namespace Sift

inductive Operator where
  | eq
  | ne
  | gt
  | gte
  | lt
  | lte
  | isIn
  | notIn
  | regex
  deriving DecidableEq, Repr

namespace Operator

def all : List Operator := [eq, ne, gt, gte, lt, lte, isIn, notIn, regex]

def name : Operator → String
  | eq => "eq"
  | ne => "ne"
  | gt => "gt"
  | gte => "gte"
  | lt => "lt"
  | lte => "lte"
  | isIn => "in"
  | notIn => "nin"
  | regex => "regex"

/-- The operator compares with a list of values. -/
def isMulti : Operator → Bool
  | isIn | notIn => true
  | _ => false

/-- The operator bounds a range. -/
def isRange : Operator → Bool
  | gt | gte | lt | lte => true
  | _ => false

/-- The operator of a name, in letters of any case. -/
def ofName? (name : String) : Option Operator :=
  all.find? fun op => Text.sameIgnoringCase op.name name

theorem mem_all (op : Operator) : op ∈ all := by
  cases op <;> decide

end Operator
end Sift
