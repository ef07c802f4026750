import Sift.Bson
import Sift.Error

/-!
Documents as MongoDB stores them: with their identifier under a key of its own.
-/

namespace Sift
namespace Mongo

/-- The key of the identifier. -/
def idKey : String := "_id"

/-- The stored form of a document.  A field that has the key already gets the identifier. -/
def prepare (id : Uuid) (value : Bson) : Except StoreError Document :=
  match value.asDocument? with
  | some d => .ok (d.put idKey (.uuid id))
  | none => .error (.invalidDocument "Expected document")

/-- The document that a stored one was made from. -/
def restore (d : Document) : Bson := .document (d.remove idKey)

end Mongo
end Sift
