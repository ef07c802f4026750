import Sift.Bson.Compare
import Sift.Bson.Path
import Sift.Query

/-!
Sorting stored documents.

A sort inserts one member after the other into those before it, and moves it forward past members
that it comes strictly before.  Members that are not ordered keep the order in which they came.

Up to twenty members are sorted like this.  More of them may be sorted in any way that keeps the
order of equal members, which gives the same list if no two members are put in order against a
third.  If some are, a long sort may end in another list, or in none.
-/

namespace Sift

/-- Inserts a member into a sorted list that is given from its end. -/
def insertFromEnd {α : Type} (before : α → α → Bool) (x : α) : List α → List α
  | [] => [x]
  | y :: ys => if before x y then y :: insertFromEnd before x ys else x :: y :: ys

/-- The members in order; `before x y` says that `x` comes strictly before `y`. -/
def stableSort {α : Type} (before : α → α → Bool) (xs : List α) : List α :=
  (xs.foldl (fun sorted x => insertFromEnd before x sorted) []).reverse

theorem insertFromEnd_perm {α : Type} (before : α → α → Bool) (x : α) (ys : List α) :
    (insertFromEnd before x ys).Perm (x :: ys) := by
  induction ys with
  | nil => exact .refl _
  | cons y ys ih =>
    simp only [insertFromEnd]
    split
    · exact (ih.cons y).trans (.swap x y ys)
    · exact .refl _

/-- Sorting loses and repeats nothing. -/
theorem stableSort_perm {α : Type} (before : α → α → Bool) (xs : List α) :
    (stableSort before xs).Perm xs := by
  have key : ∀ (xs sorted : List α),
      (xs.foldl (fun sorted x => insertFromEnd before x sorted) sorted).Perm (xs ++ sorted) := by
    intro xs
    induction xs with
    | nil => intro sorted; exact .refl _
    | cons x xs ih =>
      intro sorted
      refine (ih _).trans ?_
      exact ((insertFromEnd_perm before x sorted).append_left xs).trans List.perm_middle
  have h := key xs []
  rw [List.append_nil] at h
  exact (List.reverse_perm _).trans h

/-- What a document is sorted by; there is always a value. -/
def sortKey (field : String) (value : Bson) : Bson :=
  ((value.asDocument?.bind fun d => d.lookup field)).getD .null

def SortBy.before (s : SortBy) (x y : Bson) : Bool :=
  let a := sortKey s.field x
  let b := sortKey s.field y
  match s.direction with
  | .ascending => a.compare? b == some .lt
  | .descending => b.compare? a == some .lt

def Query.order (q : Query) (values : List Bson) : List Bson :=
  match q.sort with
  | some s => stableSort s.before values
  | none => values

def Query.window {α : Type} (q : Query) (xs : List α) : List α :=
  let xs := xs.drop (q.offset.getD 0)
  match q.limit with
  | some n => xs.take n
  | none => xs

end Sift
