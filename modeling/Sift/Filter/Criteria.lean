import Sift.Error
import Sift.Filter.Entry
import Sift.Query

/-!
From filter entries to a query.

Each entry is one clause.  A range bound joins the criterion that its field already has; any
other operator replaces that criterion.  Criteria stand in the order in which their fields first
come, and while they are made a map keeps the place at which each field has its criterion.
-/

namespace Sift

/-- The value of an entry's clause, or how the entry contradicts its operator. -/
def FilterEntry.clauseValue (e : FilterEntry) : Except ShapeFault Bson :=
  match e.value, e.op.isMulti with
  | .set values, true => .ok (.array (values.values.map TypedValue.toBson))
  | .single value, false =>
    if e.op = .regex ∧ value.asText?.isNone then
      .error (.patternNotText e.field value.scalarType)
    else .ok value.toBson
  | .single _, true => .error (.needsSet e.op e.field)
  | .set _, false => .error (.needsSingle e.op e.field)

namespace Criteria

/-- Criteria in the making. -/
structure Draft where
  criteria : List Criterion
  /-- Where the criterion of a field stands. -/
  positions : HashMap String Nat

namespace Draft

def empty : Draft := ⟨[], .empty⟩

/-- Adds a clause at the place of its field, or as a new criterion at the end. -/
def add (d : Draft) (field : String) (op : Operator) (value : Bson) : Draft :=
  match d.positions.get? field with
  | some place =>
    if op.isRange then { d with criteria := d.criteria.modify place fun c => c.and op value }
    else { d with criteria := d.criteria.set place (.single field op value) }
  | none =>
    { criteria := d.criteria ++ [.single field op value]
      positions := d.positions.insert field d.criteria.length }

/-- Adds the clauses of entries in order. -/
def addAll : Draft → List FilterEntry → Except ShapeFault Draft
  | d, [] => .ok d
  | d, e :: es =>
    match e.clauseValue with
    | .error fault => .error fault
    | .ok value => addAll (d.add e.field e.op value) es

end Draft

/-- The query that all entries make, without a window. -/
def build (entries : List FilterEntry) : Except FilterError Query :=
  match Draft.empty.addAll entries with
  | .error fault => .error (.invariantViolation fault)
  | .ok d => .ok { Query.empty with criteria := d.criteria }

end Criteria
end Sift
