import Sift.Error
import Sift.Query

/-!
The window and the order of a query as options of a MongoDB find.
-/

namespace Sift
namespace Mongo

structure FindOptions where
  limit : Option Nat
  skip : Option Nat
  /-- A document with the path and `1` or `-1`. -/
  sort : Option Document

/-- The largest limit that the server takes. -/
def maxLimit : Nat := 9223372036854775807

def directionValue : Direction → Bson
  | .ascending => .int32 1
  | .descending => .int32 (-1)

/-- The options of a query.  A limit that the server does not take is refused. -/
def findOptions (q : Query) : Except StoreError FindOptions :=
  let options : FindOptions := {
    limit := q.limit
    skip := q.offset
    sort := q.sort.map fun s => [(s.field, directionValue s.direction)] }
  match q.limit with
  | some limit =>
    if maxLimit < limit then .error (.invalidPagination (.limitOutOfRange limit)) else .ok options
  | none => .ok options

end Mongo
end Sift
