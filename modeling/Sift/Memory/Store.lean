import Sift.Backend
import Sift.Match
import Sift.Memory.Order

/-!
Collections of documents in memory.

A collection keeps its documents in the order in which they came, and beside them the identifiers
that are taken.  It comes into being with the first batch for it, also if that batch is refused, and
queries on a collection that is not there find nothing.
-/

namespace Sift

/-- Documents under their identifiers. -/
abbrev Entries := List (Uuid × Bson)

/-- What a collection holds. -/
structure Holdings where
  ids : HashSet Uuid
  documents : List Bson

namespace Holdings

def empty : Holdings := ⟨.empty, []⟩

/-- Takes in a document and its identifier. -/
def store (h : Holdings) (entry : Uuid × Bson) : Holdings :=
  { ids := (h.ids.insert entry.1).2, documents := h.documents ++ [entry.2] }

def storeAll (h : Holdings) (batch : Entries) : Holdings := batch.foldl store h

end Holdings

structure Memory where
  collections : List (String × Holdings)

namespace Memory

def empty : Memory := ⟨[]⟩

def get? (m : Memory) (collection : String) : Option Holdings :=
  (Keyed.get? Prod.fst collection m.collections).map Prod.snd

def put (m : Memory) (collection : String) (held : Holdings) : Memory :=
  ⟨Keyed.put Prod.fst (collection, held) m.collections⟩

/-- The first identifier that is taken already or was named before. -/
def firstTaken (taken named : HashSet Uuid) : List Uuid → Option Uuid
  | [] => none
  | id :: ids =>
    if taken.contains id || !(named.insert id).1 then some id
    else firstTaken taken (named.insert id).2 ids

/-- Stores a batch, or nothing of it if one of its identifiers is taken. -/
def insert (m : Memory) (collection : String) (batch : Entries) :
    Except StoreError Unit × Memory :=
  let held := (m.get? collection).getD .empty
  match firstTaken held.ids .empty (batch.map Prod.fst) with
  | some id => (.error (.documentAlreadyExists id.text collection), m.put collection held)
  | none => (.ok (), m.put collection (held.storeAll batch))

/-- The documents that the criteria of a query select, in the order in which they came. -/
def matching (m : Memory) (collection : String) (q : Query) : Except StoreError (List Bson) :=
  match m.get? collection with
  | none => .ok []
  | some held => q.select held.documents

def find (m : Memory) (collection : String) (q : Query) : Except StoreError (List Bson) :=
  (m.matching collection q).map fun values => q.window (q.order values)

def count (m : Memory) (collection : String) (q : Query) : Except StoreError Nat :=
  (m.matching collection q).map List.length

/-- The values at a path in a value; an array stands for its elements. -/
def valuesAt (path : String) (value : Bson) : List Bson :=
  match value.asDocument?.bind fun d => d.lookup path with
  | none => []
  | some v => v.members

/-- The values without those that are equal to an earlier one. -/
def distinctValues (values : List Bson) : List Bson :=
  values.foldl (fun seen v => if seen.any fun s => s.same v then seen else seen ++ [v]) []

def distinct (m : Memory) (collection path : String) (q : Query) :
    Except StoreError (List Bson) :=
  (m.matching collection q).map fun values => distinctValues (values.flatMap (valuesAt path))

def backend : Backend Memory where
  insert collection batch := fun m => m.insert collection batch
  find collection q := fun m => (m.find collection q, m)
  count collection q := fun m => (m.count collection q, m)
  distinct collection path q := fun m => (m.distinct collection path q, m)

end Memory
end Sift
