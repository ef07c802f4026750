import Sift.Bson.Compare
import Sift.Bson.Display
import Sift.Bson.Path
import Sift.Pattern.Read
import Sift.Query

/-!
Which documents a query selects.

The patterns of a query are compiled before any document is looked at.  A clause holds at a path
if it holds for the value there or, where that is an array, for one of its elements; `ne` and
`nin` hold where `eq` and `in` do not, also where there is no value.
-/

namespace Sift

namespace Bson

/-- The value, and the elements of an array. -/
def candidates (v : Bson) : List Bson :=
  match v with
  | array items => v :: items
  | _ => [v]

/-- The values that `in` compares with. -/
def members (v : Bson) : List Bson :=
  match v with
  | array items => items
  | _ => [v]

def equalsAny (v bound : Bson) : Bool := v.candidates.any fun c => c.same bound

def isAnyOf (v list : Bson) : Bool :=
  v.candidates.any fun c => list.members.any fun m => m.same c

/-- Some candidate stands to the bound in one of the ways allowed. -/
def orderedAs (v bound : Bson) (allowed : Ordering → Bool) : Bool :=
  v.candidates.any fun c => (c.compare? bound).any allowed

end Bson

structure Patterns where
  entries : List (String × Pattern.Expr)

namespace Patterns

def empty : Patterns := ⟨[]⟩

def get? (ps : Patterns) (pattern : String) : Option Pattern.Expr :=
  (Keyed.get? Prod.fst pattern ps.entries).map Prod.snd

def addCriterion (ps : Patterns) (c : Criterion) : Except StoreError Patterns :=
  match c.clause? .regex with
  | none => .ok ps
  | some value =>
    match value.asText? with
    | none => .error (.backend (.patternNotText c.field value.text))
    | some pattern =>
      if (ps.get? pattern).isSome then .ok ps
      else
        match Pattern.read pattern with
        | .ok e => .ok ⟨ps.entries ++ [(pattern, e)]⟩
        | .error _ => .error (.backend (.badPattern pattern))

/-- The patterns of all criteria in order. -/
def compile (criteria : List Criterion) : Except StoreError Patterns :=
  criteria.foldlM addCriterion empty

def clauseHolds (ps : Patterns) (op : Operator) (bound value : Bson) : Except StoreError Bool :=
  match op with
  | .eq => .ok (value.equalsAny bound)
  | .ne => .ok (!value.equalsAny bound)
  | .gt => .ok (value.orderedAs bound fun o => o == .gt)
  | .gte => .ok (value.orderedAs bound fun o => o != .lt)
  | .lt => .ok (value.orderedAs bound fun o => o == .lt)
  | .lte => .ok (value.orderedAs bound fun o => o != .gt)
  | .isIn => .ok (value.isAnyOf bound)
  | .notIn => .ok (!value.isAnyOf bound)
  | .regex =>
    match bound.asText?.bind ps.get? with
    | none => .error (.backend (.patternMissing bound.text))
    | some e => .ok (value.candidates.any fun c => c.asText?.any e.isMatch)

/-- A clause holds where there may be no value. -/
def clauseHoldsAt (ps : Patterns) (value : Option Bson) (op : Operator) (bound : Bson) :
    Except StoreError Bool :=
  match value with
  | some value => ps.clauseHolds op bound value
  | none => .ok (op = .ne || op = .notIn)

/-- All clauses of a criterion hold.  The first that does not settles it. -/
def criterionHolds (ps : Patterns) (d : Document) (c : Criterion) : Except StoreError Bool :=
  c.clauses.allM fun (op, bound) => ps.clauseHoldsAt (d.lookup c.field) op bound

/-- All criteria hold for a document.  The first that does not settles it. -/
def allHold (ps : Patterns) (criteria : List Criterion) (d : Document) :
    Except StoreError Bool :=
  criteria.allM (ps.criterionHolds d)

/-- The documents among the values for which all criteria hold, in order. -/
def select (ps : Patterns) (criteria : List Criterion) : List Bson → Except StoreError (List Bson)
  | [] => .ok []
  | value :: values =>
    match value.asDocument? with
    | none => select ps criteria values
    | some d => do
      let holds ← ps.allHold criteria d
      let rest ← select ps criteria values
      return if holds then value :: rest else rest

end Patterns

def Query.select (q : Query) (values : List Bson) : Except StoreError (List Bson) := do
  (← Patterns.compile q.criteria).select q.criteria values

end Sift
