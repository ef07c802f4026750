import Sift.Filter.Operator
import Sift.Value.Set

/-!
Filter entries: a field, an operator and what it is compared with.
-/

namespace Sift

/-- What a field is compared with: one value, or a set of them. -/
inductive FilterValue where
  | single (value : TypedValue)
  | set (values : ValueSet)

structure FilterEntry where
  /-- The path of the field. -/
  field : String
  op : Operator
  value : FilterValue

end Sift
