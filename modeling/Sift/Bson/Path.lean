import Sift.Bson
import Sift.Schema

/-!
Looking up a path in a document.
-/

namespace Sift
namespace Document

/-- Descends through embedded documents, one key per segment.  There is no value where a key is
missing or a value on the way is not a document. -/
def descend (d : Document) : List String → Option Bson
  | [] => none
  | [key] => d.get? key
  | key :: rest =>
    match d.get? key with
    | some (.document fields) => descend fields rest
    | _ => none

/-- The value at a dotted path. -/
def lookup (d : Document) (path : String) : Option Bson := d.descend (pathSegments path)

end Document
end Sift
