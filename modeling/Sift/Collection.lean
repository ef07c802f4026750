import Sift.Filter.Criteria
import Sift.Filter.Token
import Sift.Lookup

/-!
Collections: documents under a name, and the schema that filters on them are read against.

Filters are read to the end before the backend is asked for anything.
-/

namespace Sift

structure Collection (ι : Type) where
  name : String
  schema : Schema ι
  config : FilterConfig

namespace Collection

variable {ι σ : Type} [Catalog ι]

/-- The query that filter tokens describe, without a window. -/
def filterQuery (c : Collection ι) (tokens : List String) : Except StoreError Query :=
  (do Criteria.build (← FilterToken.readAll c.config c.schema tokens) : Except FilterError Query)
    |>.mapError .filter

def insert (c : Collection ι) (b : Backend σ) (batch : List (Uuid × Bson)) : Action σ Unit :=
  b.insert c.name batch

def find (c : Collection ι) (b : Backend σ) (q : Query) : Action σ (List Bson) :=
  b.find c.name q

/-- One page of the documents that match all tokens. -/
def page (c : Collection ι) (b : Backend σ) (tokens : List String) (r : PageRequest) :
    Action σ (Page Bson) := do
  let q ← Action.ofExcept (c.filterQuery tokens)
  let (items, total) ← Lookup.page b c.name q r
  return .ofParts items total r

/-- The distinct values at a path of the schema in the documents that match all tokens. -/
def distinct (c : Collection ι) (b : Backend σ) (tokens : List String) (path : String) :
    Action σ (List Bson) := do
  let _ ← Action.ofExcept ((c.schema.resolveField path).mapError .filter)
  let q ← Action.ofExcept (c.filterQuery tokens)
  Lookup.distinct b c.name q path

end Collection

/-- The settings that the collections of a store share. -/
structure Setup (ι : Type) where
  config : FilterConfig
  registry : Registry ι

namespace Setup

variable {ι : Type}

def standard : Setup ι := ⟨.standard, .empty⟩

/-- The collection whose schema is registered under its name. -/
def collection? (s : Setup ι) (name : String) : Option (Collection ι) :=
  (s.registry.get? name).map fun schema => ⟨name, schema, s.config⟩

/-- A collection with a schema given for it. -/
def collectionWith (s : Setup ι) (name : String) (schema : Schema ι) : Collection ι :=
  ⟨name, schema, s.config⟩

end Setup
end Sift
