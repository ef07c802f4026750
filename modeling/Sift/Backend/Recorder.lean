import Sift.Backend

/-!
A backend that stores nothing: it keeps the calls it gets and answers with what it was given.
-/

namespace Sift

/-- The operations that read. -/
inductive Reading where
  | find
  | count
  | distinct
  deriving DecidableEq, Repr

structure RecordedCall where
  reading : Reading
  collection : String
  /-- The path whose values are asked for. -/
  path : Option String
  query : Query

/-- The answers of a recorder. -/
structure Recorder where
  items : List Bson
  total : Nat
  /-- The operation that fails, and how. -/
  failure : Option (Reading × StoreError)

namespace Recorder

/-- Keeps a call, and fails if it is of the kind that fails. -/
def note (r : Recorder) {α : Type} (call : RecordedCall) (answer : α) :
    Action (List RecordedCall) α :=
  fun calls =>
    let calls := calls ++ [call]
    match r.failure with
    | some (reading, error) =>
      if reading = call.reading then (.error error, calls) else (.ok answer, calls)
    | none => (.ok answer, calls)

/-- The recorder as a backend whose state is the calls so far. -/
def backend (r : Recorder) : Backend (List RecordedCall) where
  insert _ _ := fun calls => (.ok (), calls)
  find collection q := r.note ⟨.find, collection, none, q⟩ r.items
  count collection q := r.note ⟨.count, collection, none, q⟩ r.total
  distinct collection path q := r.note ⟨.distinct, collection, some path, q⟩ r.items

end Recorder
end Sift
