import Sift.Backend
import Sift.Page

/-!
The two ways in which a collection is read: a page of documents with the number of all that
match, and the distinct values at a path.
-/

namespace Sift
namespace Lookup

variable {σ : Type}

/-- The documents of one page, and how many match in all.  The window of the query is replaced by
that of the page, and a request that is not valid does not reach the backend. -/
def page (b : Backend σ) (collection : String) (q : Query) (r : PageRequest) :
    Action σ (List Bson × Nat) := do
  Action.ofExcept r.validate
  let total ← b.count collection q.unpaged
  let items ← b.find collection (q.paginate r)
  return (items, total)

/-- The distinct values at a path; the window of the query has no say. -/
def distinct (b : Backend σ) (collection : String) (q : Query) (path : String) :
    Action σ (List Bson) :=
  b.distinct collection path q.unpaged

end Lookup
end Sift
