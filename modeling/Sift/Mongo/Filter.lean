import Sift.Error
import Sift.Query

/-!
Queries as MongoDB filter documents.

A criterion becomes one field of the filter, whose document has one field for each clause.  Fields
at the top level all have to hold.
-/

namespace Sift
namespace Mongo

def operatorKey : Operator → String
  | .eq => "$eq"
  | .ne => "$ne"
  | .gt => "$gt"
  | .gte => "$gte"
  | .lt => "$lt"
  | .lte => "$lte"
  | .isIn => "$in"
  | .notIn => "$nin"
  | .regex => "$regex"

/-- The value has the form that the operator asks for. -/
def checkClause (field : String) (op : Operator) (value : Bson) : Except StoreError Unit :=
  match op with
  | .isIn | .notIn =>
    if value.asArray?.isSome then .ok () else .error (.backend (.needsArray op field))
  | .regex => if value.asText?.isSome then .ok () else .error (.backend (.needsPattern field))
  | _ => .ok ()

def clauseFields (field : String) : Document → List (Operator × Bson) →
    Except StoreError Document
  | fields, [] => .ok fields
  | fields, (op, value) :: clauses => do
    checkClause field op value
    clauseFields field (fields.put (operatorKey op) value) clauses

/-- The filter that selects what the criteria select.  Of two criteria on one field the later one
counts. -/
def filterFields : Document → List Criterion → Except StoreError Document
  | filter, [] => .ok filter
  | filter, c :: criteria => do
    let clauses ← clauseFields c.field [] c.clauses
    filterFields (filter.put c.field (.document clauses)) criteria

def filter (q : Query) : Except StoreError Document := filterFields [] q.criteria

/-! ## Reading a filter -/

end Mongo
end Sift
