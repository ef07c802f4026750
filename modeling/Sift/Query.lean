import Sift.Bson
import Sift.Filter.Operator

/-!
Queries: criteria that all have to hold, a window and an order.

A criterion gathers all clauses on one field, one for each operator.  A query built with
`withCriterion` has one criterion for each field.
-/

namespace Sift

/-- The clauses on one field, which all have to hold. -/
structure Criterion where
  field : String
  /-- An operator and the value it compares with, for each clause in order. -/
  clauses : List (Operator × Bson)

namespace Criterion

def single (field : String) (op : Operator) (value : Bson) : Criterion := ⟨field, [(op, value)]⟩

/-- Adds a clause.  An operator that is there already gets the new value in its place. -/
def and (c : Criterion) (op : Operator) (value : Bson) : Criterion :=
  { c with clauses := Keyed.put Prod.fst (op, value) c.clauses }

def clause? (c : Criterion) (op : Operator) : Option Bson :=
  (Keyed.get? Prod.fst op c.clauses).map Prod.snd

def ofClauses (field : String) (op : Operator) (value : Bson)
    (more : List (Operator × Bson)) : Criterion :=
  more.foldl (fun c (op, value) => c.and op value) (single field op value)

/-- There is a clause, and no two clauses have one operator. -/
def WellFormed (c : Criterion) : Prop :=
  c.clauses ≠ [] ∧ (c.clauses.map Prod.fst).Nodup

theorem wellFormed_single (field : String) (op : Operator) (value : Bson) :
    (single field op value).WellFormed := by
  simp [WellFormed, single]

theorem WellFormed.and {c : Criterion} (h : c.WellFormed) (op : Operator) (value : Bson) :
    (c.and op value).WellFormed := by
  refine ⟨?_, Keyed.nodup_put _ _ h.2⟩
  obtain ⟨field, clauses⟩ := c
  cases clauses with
  | nil => exact absurd rfl h.1
  | cons a as => by_cases e : a.1 = op <;> simp [Criterion.and, Keyed.put, e]

end Criterion

inductive Direction where
  | ascending
  | descending
  deriving DecidableEq, Repr

structure SortBy where
  field : String
  direction : Direction
  deriving DecidableEq, Repr

structure Query where
  /-- All of them have to hold. -/
  criteria : List Criterion
  /-- The most documents that are returned. -/
  limit : Option Nat
  /-- How many documents are passed over. -/
  offset : Option Nat
  sort : Option SortBy

namespace Query

def empty : Query := ⟨[], none, none, none⟩

/-- Adds a criterion.  One on a field that has a criterion replaces it. -/
def withCriterion (q : Query) (c : Criterion) : Query :=
  { q with criteria := Keyed.put Criterion.field c q.criteria }

def withLimit (q : Query) (n : Nat) : Query := { q with limit := some n }

def withOffset (q : Query) (n : Nat) : Query := { q with offset := some n }

def withSort (q : Query) (field : String) (direction : Direction) : Query :=
  { q with sort := some ⟨field, direction⟩ }

def unpaged (q : Query) : Query := { q with limit := none, offset := none }

def criterion? (q : Query) (field : String) : Option Criterion :=
  Keyed.get? Criterion.field field q.criteria

end Query

/-! Criteria with one clause, by the comparison they make. -/

namespace Where

def eq (field : String) (value : Bson) : Criterion := .single field .eq value

def ne (field : String) (value : Bson) : Criterion := .single field .ne value

def gt (field : String) (value : Bson) : Criterion := .single field .gt value

def gte (field : String) (value : Bson) : Criterion := .single field .gte value

def lt (field : String) (value : Bson) : Criterion := .single field .lt value

def lte (field : String) (value : Bson) : Criterion := .single field .lte value

def anyOf (field : String) (values : List Bson) : Criterion := .single field .isIn (.array values)

def noneOf (field : String) (values : List Bson) : Criterion :=
  .single field .notIn (.array values)

def regex (field pattern : String) : Criterion := .single field .regex (.string pattern)

end Where
end Sift
