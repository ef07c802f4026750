import Sift.Collection
import Sift.Page.Json

/-!
Records: documents with a type of their own.

A record knows its collection and its schema, and is written as a document and read back from
one, either of which may fail.  A typed collection is the collection of the type, with documents
written on the way in and read on the way out.
-/

namespace Sift

/-- Types whose values are stored as documents. -/
class Record (ι : outParam Type) (α : Type) where
  /-- The name of the collection. -/
  collection : String
  schema : Schema ι
  id : α → Uuid
  toBson : α → Except StoreError Bson
  ofBson : Bson → Except StoreError α
  toJson : α → Json

namespace Record

variable {ι σ α : Type} [Catalog ι] [Record ι α]

/-- The collection of a type. -/
def untyped (α : Type) [Record ι α] (s : Setup ι) : Collection ι :=
  s.collectionWith (collection α) (schema α)

/-- A record under its identifier, as it is stored. -/
def entry (r : α) : Except StoreError (Uuid × Bson) := (toBson r).map fun v => (id r, v)

/-- Stores records.  If one of them cannot be written, nothing is stored. -/
def insert (s : Setup ι) (b : Backend σ) (records : List α) : Action σ Unit := do
  let batch ← Action.ofExcept (records.mapM entry)
  (untyped α s).insert b batch

/-- Stores the records that documents hold.  If one of them holds none, nothing is stored. -/
def insertDocuments (α : Type) [Record ι α] (s : Setup ι) (b : Backend σ)
    (documents : List Bson) : Action σ Unit := do
  let records : List α ← Action.ofExcept (documents.mapM ofBson)
  insert s b records

def find (α : Type) [Record ι α] (s : Setup ι) (b : Backend σ) (q : Query) :
    Action σ (List α) := do
  let values ← (untyped α s).find b q
  Action.ofExcept (values.mapM ofBson)

def page (α : Type) [Record ι α] (s : Setup ι) (b : Backend σ) (tokens : List String)
    (r : PageRequest) : Action σ (Page α) := do
  let p ← (untyped α s).page b tokens r
  Action.ofExcept (p.tryMapItems ofBson)

def distinct (α : Type) [Record ι α] (s : Setup ι) (b : Backend σ) (tokens : List String)
    (path : String) : Action σ (List Bson) :=
  (untyped α s).distinct b tokens path

end Record
end Sift
