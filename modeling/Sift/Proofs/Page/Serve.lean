import Mathlib.Algebra.Order.Floor.Semiring
import Mathlib.Data.Rat.Floor
import Sift.Collection
import Sift.Proofs.Memory.Sort

/-!
# Pages cut the list of matches

A page is put together from two answers of the backend, a count and a window.  On a store in memory
both come from one list, the documents that the query finds without its window, and `serve_cuts`
says that the page is the part of this list that the request names.  The pages in order are then
the whole list, and `hasNext` tells whether another one follows.
-/

namespace Sift

variable {α σ : Type}

/-- The page of a request, cut from the list of all items. -/
def Page.cut (all : List α) (r : PageRequest) : Page α where
  currentPage := r.page
  totalItems := all.length
  totalPages := ⌈(all.length : ℚ) / r.size⌉₊
  items := all.extract (r.page * r.size) (min ((r.page + 1) * r.size) all.length)
  hasNext := decide ((r.page + 1) * r.size < all.length)

/-- The page of a request, from what the backend answers for a query. -/
def Lookup.serve (b : Backend σ) (collection : String) (q : Query) (r : PageRequest) :
    Action σ (Page Bson) := do
  let (items, total) ← page b collection q r
  return .ofParts items total r

theorem Collection.page_eq_serve {ι : Type} [Catalog ι] (c : Collection ι) (b : Backend σ)
    (tokens : List String) (r : PageRequest) :
    c.page b tokens r =
      Action.ofExcept (c.filterQuery tokens) >>= fun q => Lookup.serve b c.name q r := rfl

/-! ## The number of pages -/

namespace Page

theorem pageCount_le_iff {size : Nat} (h : 0 < size) (total n : Nat) :
    pageCount total size ≤ n ↔ total ≤ n * size := by
  have hne : size ≠ 0 := by omega
  rw [pageCount, if_neg hne, ← Nat.lt_succ_iff, Nat.div_lt_iff_lt_mul h, Nat.succ_mul]
  omega

theorem pageCount_eq_ceil {size : Nat} (h : 0 < size) (total : Nat) :
    pageCount total size = ⌈(total : ℚ) / size⌉₊ := by
  refine eq_of_forall_ge_iff fun n => ?_
  have hq : (0 : ℚ) < size := by exact_mod_cast h
  rw [pageCount_le_iff h, Nat.ceil_le, div_le_iff₀ hq]
  norm_cast

theorem lt_pageCount_iff {size : Nat} (h : 0 < size) (total n : Nat) :
    n < pageCount total size ↔ n * size < total := by
  rw [← Nat.not_le, pageCount_le_iff h, Nat.not_le]

/-! ## The items of a page -/

theorem extract_eq_window (all : List α) (page size : Nat) :
    all.extract (page * size) (min ((page + 1) * size) all.length) =
      (all.drop (page * size)).take size := by
  rw [List.extract_eq_take_drop, List.take_eq_take_iff, List.length_drop, Nat.succ_mul]
  omega

/-- Successive pages without a gap are an initial part of the list. -/
theorem flatMap_window (all : List α) (size n : Nat) :
    (List.range n).flatMap (fun page => (all.drop (page * size)).take size) =
      all.take (n * size) := by
  induction n with
  | zero => simp
  | succ n ih =>
    rw [List.range_succ, List.flatMap_append, ih, Nat.succ_mul, List.take_add]
    simp

theorem flatMap_cut (all : List α) {size : Nat} (h : 0 < size) :
    ((List.range ⌈(all.length : ℚ) / size⌉₊).map fun page => cut all ⟨page, size⟩).flatMap items =
      all := by
  have hlen : all.length ≤ ⌈(all.length : ℚ) / size⌉₊ * size := by
    rw [← pageCount_eq_ceil h, ← pageCount_le_iff h]
  rw [List.flatMap_map]
  simp only [cut, extract_eq_window]
  rw [flatMap_window, List.take_of_length_le hlen]

theorem items_cut_ne_nil_iff (all : List α) {size : Nat} (h : 0 < size) (page : Nat) :
    (cut all ⟨page, size⟩).items ≠ [] ↔ page * size < all.length := by
  simp only [cut, extract_eq_window]
  rw [← List.length_pos_iff, List.length_take, List.length_drop]
  omega

theorem ofParts_eq_cut (all : List α) {size : Nat} (h : 0 < size) (page : Nat) :
    ofParts ((all.drop (page * size)).take size) all.length ⟨page, size⟩ =
      cut all ⟨page, size⟩ := by
  have hnext : page < pageCount all.length size - 1 ↔ (page + 1) * size < all.length := by
    rw [← lt_pageCount_iff h]
    omega
  simp only [ofParts, cut, extract_eq_window, ← pageCount_eq_ceil h, hnext]

end Page

/-! ## Serving from a store in memory -/

namespace Memory

/-- What a page lookup answers on a store in memory, which it leaves as it is. -/
theorem page_eq (m : Memory) (collection : String) (q : Query) (r : PageRequest) :
    Lookup.page backend collection q r m =
      (r.validate.bind fun _ => (m.count collection q.unpaged).bind fun total =>
        (m.find collection (q.paginate r)).map fun items => (items, total), m) := by
  unfold Lookup.page
  rw [Action.ofExcept_bind]
  cases r.validate with
  | error e => rfl
  | ok _ =>
    refine (Action.bind_apply (show backend.count collection q.unpaged m =
      (m.count collection q.unpaged, m) from rfl) _).trans ?_
    cases m.count collection q.unpaged with
    | error e => rfl
    | ok total =>
      refine (Action.bind_apply (show backend.find collection (q.paginate r) m =
        (m.find collection (q.paginate r), m) from rfl) _).trans ?_
      cases m.find collection (q.paginate r) <;> rfl

theorem serve_eq (m : Memory) (collection : String) (q : Query) (r : PageRequest) :
    Lookup.serve backend collection q r m =
      (r.validate.bind fun _ => (m.count collection q.unpaged).bind fun total =>
        (m.find collection (q.paginate r)).map fun items => Page.ofParts items total r, m) := by
  refine (Action.bind_apply (page_eq m collection q r) _).trans ?_
  cases r.validate with
  | error e => rfl
  | ok _ =>
    cases m.count collection q.unpaged with
    | error e => rfl
    | ok total => cases m.find collection (q.paginate r) <;> rfl

/-- The members of what is found without a window. -/
theorem find_unpaged {m : Memory} {collection : String} {q : Query} {values : List Bson}
    (h : m.matching collection q = .ok values) :
    ∃ all, m.find collection q.unpaged = .ok all ∧ all.Perm values := by
  have hsame : m.matching collection q.unpaged = m.matching collection q := rfl
  refine ⟨q.unpaged.order values, ?_, Query.order_perm _ values⟩
  rw [find, hsame, h]
  rfl

/-- The list that a query without a window finds gives the count and every window. -/
theorem count_and_window {m : Memory} {collection : String} {q : Query} {all : List Bson}
    (h : m.find collection q.unpaged = .ok all) (r : PageRequest) :
    m.count collection q.unpaged = .ok all.length ∧
      m.find collection (q.paginate r) = .ok ((all.drop r.offset).take r.size) := by
  have hsame : m.matching collection (q.paginate r) = m.matching collection q.unpaged := rfl
  simp only [find, count, hsame] at h ⊢
  cases hm : m.matching collection q.unpaged with
  | error e => simp [hm, Except.map] at h
  | ok found =>
    simp only [hm, Except.map, Except.ok.injEq] at h ⊢
    -- the count is taken before sorting, the list after it
    have hlen : (q.unpaged.order found).length = found.length :=
      (Query.order_perm _ found).length_eq
    subst h
    exact ⟨hlen.symm, rfl⟩

theorem serve_of_find {m : Memory} {collection : String} {q : Query} {all : List Bson}
    (h : m.find collection q.unpaged = .ok all) {page size : Nat} (hsize : 0 < size)
    (hfits : page * size < counterBound) :
    Lookup.serve backend collection q ⟨page, size⟩ m = (.ok (.cut all ⟨page, size⟩), m) := by
  have hvalid : PageRequest.validate ⟨page, size⟩ = .ok () := by
    have hne : size ≠ 0 := by omega
    simp [PageRequest.validate, hne, hfits]
  have hoffset : PageRequest.offset ⟨page, size⟩ = page * size := by
    simp only [PageRequest.offset, saturatingProduct]
    omega
  obtain ⟨hcount, hwindow⟩ := count_and_window h ⟨page, size⟩
  rw [serve_eq, hvalid, hcount, hwindow, hoffset]
  simp only [Except.bind, Except.map]
  rw [Page.ofParts_eq_cut all hsize]

theorem serve_out_of_range (m : Memory) (collection : String) (q : Query) {page size : Nat}
    (hsize : 0 < size) (h : counterBound ≤ page * size) :
    Lookup.serve backend collection q ⟨page, size⟩ m =
      (.error (.invalidPagination (.outOfRange page size)), m) := by
  have hne : size ≠ 0 := by omega
  have hnot : ¬ page * size < counterBound := by omega
  rw [serve_eq]
  simp [PageRequest.validate, hne, hnot, Except.bind]

/-- The pages in order are the list, each member once and in its place. -/
theorem serve_all {m : Memory} {collection : String} {q : Query} {all : List Bson}
    (h : m.find collection q.unpaged = .ok all) (hlen : all.length < counterBound) {size : Nat}
    (hsize : 0 < size) :
    ∃ pages, (List.range ⌈(all.length : ℚ) / size⌉₊).mapM
        (fun page => (Lookup.serve backend collection q ⟨page, size⟩ m).1) = .ok pages ∧
      pages.flatMap Page.items = all := by
  refine ⟨_, mapM_eq_ok_iff.mpr ?_, Page.flatMap_cut all hsize⟩
  rw [List.forall₂_map_right_iff, List.forall₂_same]
  intro page hpage
  -- such a page starts inside the list, so its offset is a counter too
  rw [List.mem_range, ← Page.pageCount_eq_ceil hsize, Page.lt_pageCount_iff hsize] at hpage
  rw [serve_of_find h hsize (by omega)]

/-- A page says that another follows just where asking for the next one finds something. -/
theorem hasNext_iff_next {m : Memory} {collection : String} {q : Query} {all : List Bson}
    (h : m.find collection q.unpaged = .ok all) (hlen : all.length < counterBound)
    {page size : Nat} (hsize : 0 < size) :
    (Page.cut all ⟨page, size⟩).hasNext = true ↔
      ∃ next, (Lookup.serve backend collection q ⟨page + 1, size⟩ m).1 = .ok next ∧
        next.items ≠ [] := by
  have hnext : (Page.cut all ⟨page, size⟩).hasNext = true ↔ (page + 1) * size < all.length := by
    simp [Page.cut]
  rw [hnext]
  constructor
  · intro hlt
    rw [serve_of_find h hsize (by omega)]
    exact ⟨_, rfl, (Page.items_cut_ne_nil_iff all hsize _).mpr hlt⟩
  · rintro ⟨next, hserve, hitems⟩
    by_cases hfits : (page + 1) * size < counterBound
    · rw [serve_of_find h hsize hfits, Except.ok.injEq] at hserve
      subst hserve
      exact (Page.items_cut_ne_nil_iff all hsize _).mp hitems
    · rw [serve_out_of_range m collection q hsize (by omega)] at hserve
      cases hserve

/-- A query whose patterns compile finds a list of documents if its order is settled, and the pages
of what a query finds are the parts of this list: each has its members in order, the pages together
have every one of them, and a page is followed by another exactly as `hasNext` says.  A page whose
first position is no counter is refused. -/
theorem serve_cuts (m : Memory) (collection : String) (q : Query) :
    ((∀ c ∈ q.criteria, c.WellFormed) → (∃ ps, Patterns.compile q.criteria = .ok ps) →
      ∃ values, m.matching collection q = .ok values ∧
        (q.Settled values → ∃ all, m.find collection q.unpaged = .ok all ∧ all.Perm values)) ∧
    (∀ all, m.find collection q.unpaged = .ok all → all.length < counterBound →
      ∀ size, 1 ≤ size →
        (∀ page, page * size < counterBound →
          Lookup.serve backend collection q ⟨page, size⟩ m =
            (.ok (.cut all ⟨page, size⟩), m)) ∧
        (∃ pages, (List.range ⌈(all.length : ℚ) / size⌉₊).mapM
            (fun page => (Lookup.serve backend collection q ⟨page, size⟩ m).1) = .ok pages ∧
          pages.flatMap Page.items = all) ∧
        (∀ page served,
          (Lookup.serve backend collection q ⟨page, size⟩ m).1 = .ok served →
            (served.hasNext = true ↔
              ∃ next, (Lookup.serve backend collection q ⟨page + 1, size⟩ m).1 = .ok next ∧
                next.items ≠ []))) ∧
    (∀ page size, 1 ≤ size → counterBound ≤ page * size →
      Lookup.serve backend collection q ⟨page, size⟩ m =
        (.error (.invalidPagination (.outOfRange page size)), m)) := by
  refine ⟨?_, fun all h hlen size hsize => ⟨?_, ?_, ?_⟩, ?_⟩
  · intro hq ⟨_, hps⟩
    obtain ⟨values, hvalues⟩ := exists_matching hq hps m collection
    exact ⟨values, hvalues, fun _ => find_unpaged hvalues⟩
  · exact fun page hfits => serve_of_find h hsize hfits
  · exact serve_all h hlen hsize
  · intro page served hserved
    by_cases hfits : page * size < counterBound
    · rw [serve_of_find h hsize hfits, Except.ok.injEq] at hserved
      rw [← hserved]
      exact hasNext_iff_next h hlen hsize
    · rw [serve_out_of_range m collection q hsize (by omega)] at hserved
      cases hserved
  · exact fun page size hsize hout => serve_out_of_range m collection q hsize hout

/-- Three rooms, stored out of order. -/
def threeRooms : Memory :=
  (empty.insert "rooms" [(roomId 3, .document [("number", .int32 3)]),
    (roomId 1, .document [("number", .int32 1)]), (roomId 2, .document [("number", .int32 2)])]).2

/-- The rooms from the first on, the last one first; its window has no say. -/
def roomsDown : Query :=
  ⟨[Where.gte "number" (.int32 1)], some 1, some 5, some ⟨"number", .descending⟩⟩

theorem serve_cuts_threeRooms :
    let all : List Bson := [3, 2, 1].map fun n => .document [("number", .int32 n)]
    ((∀ c ∈ roomsDown.criteria, c.WellFormed) ∧
      (∃ ps, Patterns.compile roomsDown.criteria = .ok ps) ∧
      ∃ found, threeRooms.find "rooms" roomsDown.unpaged = .ok found ∧ found.length = 3) ∧
    (threeRooms.find "rooms" roomsDown.unpaged = .ok all ∧ all.length < counterBound ∧
      Lookup.serve backend "rooms" roomsDown ⟨1, 2⟩ threeRooms =
        (.ok (.cut all ⟨1, 2⟩), threeRooms) ∧
      (∃ pages, (List.range ⌈(all.length : ℚ) / (2 : Nat)⌉₊).mapM
          (fun page => (Lookup.serve backend "rooms" roomsDown ⟨page, 2⟩ threeRooms).1) =
            .ok pages ∧
        pages.flatMap Page.items = all) ∧
      ((Page.cut all ⟨0, 2⟩).hasNext = true ↔
        ∃ next, (Lookup.serve backend "rooms" roomsDown ⟨1, 2⟩ threeRooms).1 = .ok next ∧
          next.items ≠ [])) ∧
    (counterBound ≤ 9223372036854775808 * 2 ∧
      Lookup.serve backend "rooms" roomsDown ⟨9223372036854775808, 2⟩ threeRooms =
        (.error (.invalidPagination (.outOfRange 9223372036854775808 2)), threeRooms)) := by
  intro all
  have hq : ∀ c ∈ roomsDown.criteria, c.WellFormed := by
    intro c hc
    rw [List.mem_singleton.mp hc]
    exact Criterion.wellFormed_single _ _ _
  have hps : ∃ ps, Patterns.compile roomsDown.criteria = .ok ps := ⟨_, rfl⟩
  have hfind : threeRooms.find "rooms" roomsDown.unpaged = .ok all := rfl
  have hmatching : threeRooms.matching "rooms" roomsDown =
      .ok ([3, 1, 2].map fun n => .document [("number", .int32 n)]) := rfl
  obtain ⟨hexists, hpages, hout⟩ := serve_cuts threeRooms "rooms" roomsDown
  obtain ⟨values, hvalues, hfound⟩ := hexists hq hps
  rw [hmatching, Except.ok.injEq] at hvalues
  subst hvalues
  obtain ⟨found, hanswer, hperm⟩ := hfound (Query.settled_of_few (by decide))
  obtain ⟨hserve, hall, hnext⟩ := hpages all hfind (by decide) 2 (by decide)
  refine ⟨⟨hq, hps, found, hanswer, hperm.length_eq⟩, ⟨hfind, by decide, hserve 1 (by decide), hall, ?_⟩,
    by decide, hout _ 2 (by decide) (by decide)⟩
  exact hnext 0 _ (congrArg Prod.fst (hserve 0 (by decide)))

end Memory
end Sift
