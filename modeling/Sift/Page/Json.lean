import Sift.Json
import Sift.Page

/-!
Pages as JSON.
-/

namespace Sift
namespace Page

variable {α : Type}

/-- A page as an object with one member for each part. -/
def toJson (item : α → Json) (p : Page α) : Json :=
  .object [("currentPage", .integer p.currentPage), ("totalItems", .integer p.totalItems),
    ("totalPages", .integer p.totalPages), ("items", .array (p.items.map item)),
    ("hasNext", .bool p.hasNext)]

/-- A page from what is written for its parts, all of which have to be there. -/
def ofParts? (item : Json → Option α) (current total pages items next : Option Json) :
    Option (Page α) := do
  return {
    currentPage := ← (← current).asCounter? counterBound
    totalItems := ← (← total).asCounter? counterBound
    totalPages := ← (← pages).asCounter? counterBound
    items := ← (← (← items).asArray?).mapM item
    hasNext := ← (← next).asBool? }

/-- A page is an object, or a list of exactly its five parts in order. -/
def ofJson? (item : Json → Option α) : Json → Option (Page α)
  | .object members =>
    let part := Json.member? members
    ofParts? item (part "currentPage") (part "totalItems") (part "totalPages") (part "items")
      (part "hasNext")
  | .array [current, total, pages, items, next] =>
    ofParts? item (some current) (some total) (some pages) (some items) (some next)
  | _ => none

def ofJson (item : Json → Option α) (json : Json) : Except StoreError (Page α) :=
  match ofJson? item json with
  | some page => .ok page
  | none => .error (.serialization "not a page")

end Page
end Sift
