import Sift.Value.Scalar

/-!
Sets of typed values that remember the order in which their members were first seen.

A set has its members twice: as a list in that order, and as a hash set, which alone is asked
whether a value is a member and whether two sets are the same.
-/

namespace Sift

structure ValueSet where
  /-- The members, each once, in the order of their first insertion. -/
  values : List TypedValue
  seen : HashSet TypedValue

namespace ValueSet

def empty : ValueSet := ⟨[], .empty⟩

def contains (s : ValueSet) (v : TypedValue) : Bool := s.seen.contains v

/-- Adds a value, and says whether it was new. -/
def insert (s : ValueSet) (v : TypedValue) : Bool × ValueSet :=
  let (new, seen) := s.seen.insert v
  (new, ⟨if new then s.values ++ [v] else s.values, seen⟩)

def ofList (vs : List TypedValue) : ValueSet :=
  vs.foldl (fun s v => (s.insert v).2) empty

def size (s : ValueSet) : Nat := s.values.length

def isEmpty (s : ValueSet) : Bool := s.values.isEmpty

/-- Both sets have the same members, in whatever order. -/
def same (s t : ValueSet) : Bool := s.seen.same t.seen

end ValueSet
end Sift
