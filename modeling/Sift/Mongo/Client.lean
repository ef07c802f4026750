import Sift.Mongo.ConnectionString
import Sift.Mongo.Filter
import Sift.Mongo.FindOptions
import Sift.Mongo.Stored

/-!
A MongoDB client up to the point where the server comes in.

What can be judged without the server is judged here: the connection string, the documents of a
batch, and the query.  What is left is a request, which somebody else has to carry out.
-/

namespace Sift
namespace Mongo

/-- A connection string has to be one. -/
def checkConnectionString (text : String) : Except StoreError Unit :=
  if (ConnectionString.read? text).isSome then .ok ()
  else .error (.initialization "not a MongoDB connection string")

/-- What the server is asked for. -/
inductive Request where
  | insert (collection : String) (documents : List Document)
  | find (collection : String) (filter : Document) (options : FindOptions)
  | count (collection : String) (filter : Document)
  | distinct (collection path : String) (filter : Document)

/-- The request that stores a batch; a batch without documents needs none.  One value that is no
document fails the whole batch. -/
def insertRequest (collection : String) (batch : List (Uuid × Bson)) :
    Except StoreError (Option Request) := do
  let documents ← batch.mapM fun (id, value) => prepare id value
  return if documents.isEmpty then none else some (.insert collection documents)

def findRequest (collection : String) (q : Query) : Except StoreError Request := do
  return .find collection (← filter q) (← findOptions q)

def countRequest (collection : String) (q : Query) : Except StoreError Request := do
  return .count collection (← filter q)

def distinctRequest (collection path : String) (q : Query) : Except StoreError Request := do
  return .distinct collection path (← filter q)

end Mongo
end Sift
