import Sift.Error
import Sift.Query

/-!
Pages of results and requests for them.

Pages are counted from zero.  Page numbers, sizes and totals are counters of 64 bits, so a request
is valid only if the number of items in front of its page is such a counter too.
-/

namespace Sift

/-- One more than the largest counter. -/
def counterBound : Nat := 18446744073709551616

/-- The product of two counters, or the largest counter if it is larger. -/
def saturatingProduct (a b : Nat) : Nat := min (a * b) (counterBound - 1)

structure PageRequest where
  page : Nat
  size : Nat
  deriving DecidableEq, Repr

namespace PageRequest

def initial : PageRequest := ⟨0, 10⟩

def offset (r : PageRequest) : Nat := saturatingProduct r.page r.size

/-- The page can be served: it has room for an item, and the items before it can be counted. -/
def validate (r : PageRequest) : Except StoreError Unit :=
  if r.size = 0 then .error (.invalidPagination .zeroSize)
  else if r.page * r.size < counterBound then .ok ()
  else .error (.invalidPagination (.outOfRange r.page r.size))

end PageRequest

/-- The query for one page; it replaces the window of the query. -/
def Query.paginate (q : Query) (r : PageRequest) : Query :=
  (q.withOffset r.offset).withLimit r.size

structure Page (α : Type) where
  currentPage : Nat
  totalItems : Nat
  totalPages : Nat
  items : List α
  hasNext : Bool
  deriving DecidableEq, Repr

namespace Page

variable {α β : Type}

def empty : Page α := ⟨0, 0, 0, [], false⟩

def pageCount (total size : Nat) : Nat := if size = 0 then 0 else (total + size - 1) / size

/-- The page of a request, from its items and the number of items on all pages. -/
def ofParts (items : List α) (total : Nat) (r : PageRequest) : Page α :=
  let totalPages := pageCount total r.size
  ⟨r.page, total, totalPages, items, r.page < totalPages - 1⟩

/-- Converts the items in order; the first failure is the failure of the page. -/
def tryMapItems {ε : Type} (f : α → Except ε β) (p : Page α) : Except ε (Page β) :=
  (p.items.mapM f).map fun items => { p with items }

end Page
end Sift
