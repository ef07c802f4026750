import Sift.Error
import Sift.Query

/-!
What a document store asks of the place where documents are kept.
-/

namespace Sift

/-- A computation that may change a state and may fail.  What it changed before a failure
stays. -/
abbrev Action (σ α : Type) := ExceptT StoreError (StateM σ) α

/-- The operations of a backend whose state is of the type `σ`. -/
structure Backend (σ : Type) where
  /-- Stores documents under identifiers in a collection, all of them or none. -/
  insert : String → List (Uuid × Bson) → Action σ Unit
  /-- The documents of a collection that a query selects. -/
  find : String → Query → Action σ (List Bson)
  /-- How many documents of a collection a query selects. -/
  count : String → Query → Action σ Nat
  /-- The values at a path in the documents that a query selects, each once. -/
  distinct : String → String → Query → Action σ (List Bson)

namespace Action

variable {σ α β : Type}

/-- A result that does not depend on the state. -/
def ofExcept (result : Except StoreError α) : Action σ α :=
  fun s => (result, s)

/-- A sequence goes on with the first result, in the state that its first step left. -/
theorem bind_apply {x : Action σ α} {s s' : σ} {result : Except StoreError α}
    (h : x s = (result, s')) (f : α → Action σ β) :
    (x >>= f) s = ExceptT.bindCont f result s' := by
  show ExceptT.bindCont f (x s).1 (x s).2 = ExceptT.bindCont f result s'
  rw [h]

theorem ofExcept_bind (result : Except StoreError α) (f : α → Action σ β) (s : σ) :
    (ofExcept result >>= f) s = ExceptT.bindCont f result s := bind_apply rfl f

end Action
end Sift
