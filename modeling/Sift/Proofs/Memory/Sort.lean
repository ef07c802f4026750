import Sift.Proofs.Bson.Order
import Sift.Proofs.Memory.Insert

/-!
# Sorted results

A sort puts each member behind the ones before it that it does not come strictly before.  That gives
a list in order if a member that does not come after a second one, which does not come after a
third, does not come after the third either (`pairwise_stableSort`).  Sort keys of one kind are like
this.  Keys of several kinds are not: a document without the field, or with a value of another kind,
comes neither before nor after the others, and stops a member on its way forward.

Of a long list with inconsistent keys nothing is said, also not that the sort ends
(`Query.Settled`).  `find_inOrder` says that the documents found are in order where the keys are
consistent, and that inconsistent keys include three for which they are not.
-/

namespace Sift

/-! ## Sorting -/

section

variable {α : Type} {before : α → α → Bool} {P : α → Prop}

/-- The list is given from its end, so what stands ahead in it comes later. -/
theorem pairwise_insertFromEnd (hasymm : ∀ x y, before x y = true → before y x = false)
    (htrans : ∀ x y z, P x → P y → P z →
      before x y = false → before y z = false → before x z = false)
    {x : α} (hx : P x) {ys : List α} (hys : ∀ y ∈ ys, P y)
    (h : ys.Pairwise fun y z => before y z = false) :
    (insertFromEnd before x ys).Pairwise fun y z => before y z = false := by
  induction ys with
  | nil => exact List.pairwise_singleton _ x
  | cons y ys ih =>
    rw [List.forall_mem_cons] at hys
    rw [List.pairwise_cons] at h
    unfold insertFromEnd
    by_cases hxy : before x y = true
    · rw [if_pos hxy, List.pairwise_cons]
      refine ⟨fun z hz => ?_, ih hys.2 h.2⟩
      rcases List.mem_cons.mp ((insertFromEnd_perm before x ys).mem_iff.mp hz) with rfl | hz
      · exact hasymm z y hxy
      · exact h.1 z hz
    · rw [if_neg hxy, List.pairwise_cons]
      rw [Bool.not_eq_true] at hxy
      refine ⟨fun z hz => ?_, List.pairwise_cons.mpr h⟩
      rcases List.mem_cons.mp hz with rfl | hz
      · exact hxy
      · exact htrans x y z hx hys.1 (hys.2 z hz) hxy (h.1 z hz)

theorem pairwise_stableSort (hasymm : ∀ x y, before x y = true → before y x = false)
    (htrans : ∀ x y z, P x → P y → P z →
      before x y = false → before y z = false → before x z = false)
    {xs : List α} (hxs : ∀ x ∈ xs, P x) :
    (stableSort before xs).Pairwise fun x y => before y x = false := by
  have key : ∀ (xs sorted : List α), (∀ x ∈ xs, P x) → (∀ x ∈ sorted, P x) →
      (sorted.Pairwise fun x y => before x y = false) →
      (xs.foldl (fun sorted x => insertFromEnd before x sorted) sorted).Pairwise
        fun x y => before x y = false := by
    intro xs
    induction xs with
    | nil => exact fun _ _ _ h => h
    | cons x xs ih =>
      intro sorted hxs hsorted h
      rw [List.forall_mem_cons] at hxs
      refine ih _ hxs.2 (fun y hy => ?_) (pairwise_insertFromEnd hasymm htrans hxs.1 hsorted h)
      rcases List.mem_cons.mp ((insertFromEnd_perm before x sorted).mem_iff.mp hy) with rfl | hy
      · exact hxs.1
      · exact hsorted y hy
  exact List.pairwise_reverse.mpr (key xs [] hxs (by simp) .nil)

end

/-! ## Documents in order -/

namespace SortBy

/-- The first document may come ahead of the second. -/
def InOrder (s : SortBy) (x y : Bson) : Prop :=
  match s.direction with
  | .ascending => (sortKey s.field x).NotAfter (sortKey s.field y)
  | .descending => (sortKey s.field y).NotAfter (sortKey s.field x)

variable {s : SortBy} {values : List Bson} {x y z : Bson}

theorem inOrder_of_ascending (h : s.direction = .ascending) :
    s.InOrder x y ↔ (sortKey s.field x).NotAfter (sortKey s.field y) := by
  rw [InOrder, h]

theorem inOrder_of_descending (h : s.direction = .descending) :
    s.InOrder x y ↔ (sortKey s.field y).NotAfter (sortKey s.field x) := by
  rw [InOrder, h]

theorem before_eq_false_iff : s.before y x = false ↔ s.InOrder x y := by
  unfold before InOrder
  cases s.direction <;> simp [Bson.NotAfter, Bson.compare?_eq_gt_iff]

theorem before_asymm (s : SortBy) (x y : Bson) (h : s.before x y = true) :
    s.before y x = false := by
  unfold before at h ⊢
  cases hdir : s.direction <;> simp only [hdir, beq_iff_eq, beq_eq_false_iff_ne] at h ⊢ <;>
    rw [← Bson.compare?_swap, h] <;> decide

theorem InOrder.trans (h : Bson.Consistent (values.map (sortKey s.field))) (hx : x ∈ values)
    (hy : y ∈ values) (hz : z ∈ values) (hxy : s.InOrder x y) (hyz : s.InOrder y z) :
    s.InOrder x z := by
  have hkey : ∀ v ∈ values, sortKey s.field v ∈ values.map (sortKey s.field) :=
    fun v hv => List.mem_map_of_mem hv
  cases hdir : s.direction with
  | ascending =>
    rw [inOrder_of_ascending hdir] at hxy hyz ⊢
    exact h _ (hkey x hx) _ (hkey y hy) _ (hkey z hz) hxy hyz
  | descending =>
    rw [inOrder_of_descending hdir] at hxy hyz ⊢
    exact h _ (hkey z hz) _ (hkey y hy) _ (hkey x hx) hyz hxy

theorem pairwise_sorted (h : Bson.Consistent (values.map (sortKey s.field))) :
    (stableSort s.before values).Pairwise s.InOrder := by
  have htrans : ∀ x y z, x ∈ values → y ∈ values → z ∈ values →
      s.before x y = false → s.before y z = false → s.before x z = false := by
    intro x y z hx hy hz hxy hyz
    rw [before_eq_false_iff] at hxy hyz ⊢
    exact InOrder.trans h hz hy hx hyz hxy
  have hsorted := pairwise_stableSort s.before_asymm htrans fun x hx => hx
  exact hsorted.imp fun hxy => before_eq_false_iff.mp hxy

/-- Three documents that come with each in order before the next stay as they are. -/
theorem not_pairwise_of_three (hxy : s.InOrder x y) (hyz : s.InOrder y z) (hxz : ¬ s.InOrder x z) :
    ¬ (stableSort s.before [x, y, z]).Pairwise s.InOrder := by
  have hstay : stableSort s.before [x, y, z] = [x, y, z] := by
    rw [← before_eq_false_iff] at hxy hyz
    simp [stableSort, insertFromEnd, hxy, hyz]
  rw [hstay, List.pairwise_cons]
  exact fun h => hxz (h.1 z (by simp))

theorem exists_not_pairwise (h : ¬ Bson.Consistent (values.map (sortKey s.field))) :
    ∃ x ∈ values, ∃ y ∈ values, ∃ z ∈ values,
      ¬ (stableSort s.before [x, y, z]).Pairwise s.InOrder := by
  unfold Bson.Consistent at h
  push Not at h
  obtain ⟨_, ha, _, hb, _, hc, hab, hbc, hac⟩ := h
  obtain ⟨x, hx, rfl⟩ := List.mem_map.mp ha
  obtain ⟨y, hy, rfl⟩ := List.mem_map.mp hb
  obtain ⟨z, hz, rfl⟩ := List.mem_map.mp hc
  -- a descending sort stops at the same three, taken from the other end
  cases hdir : s.direction with
  | ascending =>
    simp only [← inOrder_of_ascending hdir] at hab hbc hac
    exact ⟨x, hx, y, hy, z, hz, not_pairwise_of_three hab hbc hac⟩
  | descending =>
    simp only [← inOrder_of_descending hdir] at hab hbc hac
    exact ⟨z, hz, y, hy, x, hx, not_pairwise_of_three hbc hab hac⟩

end SortBy

/-! ## Queries with a sort -/

/-- What the query makes of the values does not depend on how a sort proceeds: there is no sort, the
sort keys are consistent, or the values are so few that they are inserted one after the other. -/
def Query.Settled (q : Query) (values : List Bson) : Prop :=
  ∀ s, q.sort = some s → Bson.Consistent (values.map (sortKey s.field)) ∨ values.length ≤ 20

theorem Query.settled_of_few {q : Query} {values : List Bson} (h : values.length ≤ 20) :
    q.Settled values := fun _ _ => .inr h

theorem Query.settled_of_unsorted {q : Query} (h : q.sort = none) (values : List Bson) :
    q.Settled values := by
  intro s hs
  rw [h] at hs
  cases hs

theorem Query.order_perm (q : Query) (values : List Bson) : (q.order values).Perm values := by
  unfold order
  cases q.sort with
  | none => exact .refl _
  | some s => exact stableSort_perm s.before values

namespace Memory

theorem find_of_sort {q : Query} {s : SortBy} (hsort : q.sort = some s) (hlimit : q.limit = none)
    (hoffset : q.offset = none) (m : Memory) (collection : String) :
    m.find collection q = (m.matching collection q).map (stableSort s.before) := by
  unfold find
  congr 1
  funext values
  simp [Query.window, Query.order, hsort, hlimit, hoffset]

/-- A query with a sort finds its matches, and finds them in order if their sort keys are consistent,
which keys of one kind are.  If they are not, there are three of the matches that it does not find in
order where they come alone. -/
theorem find_inOrder {q : Query} (hq : ∀ c ∈ q.criteria, c.WellFormed) {ps : Patterns}
    (hcompile : Patterns.compile q.criteria = .ok ps) {s : SortBy} (hsort : q.sort = some s)
    (hlimit : q.limit = none) (hoffset : q.offset = none) (m : Memory) (collection : String) :
    ∃ values, m.matching collection q = .ok values ∧
      (∀ kind, (∀ x ∈ values, Bson.OfKind kind (sortKey s.field x)) →
        Bson.Consistent (values.map (sortKey s.field))) ∧
      (q.Settled values → ∃ found, m.find collection q = .ok found ∧ found.Perm values ∧
        (Bson.Consistent (values.map (sortKey s.field)) → found.Pairwise s.InOrder)) ∧
      (¬ Bson.Consistent (values.map (sortKey s.field)) →
        ∃ x ∈ values, ∃ y ∈ values, ∃ z ∈ values,
          ∀ m' : Memory, m'.documents collection = [x, y, z] →
            ∃ found, m'.find collection q = .ok found ∧ ¬ found.Pairwise s.InOrder) := by
  have hmatching : ∀ m' : Memory, m'.matching collection q =
      .ok ((m'.documents collection).filter q.selects) := fun m' => matching_of_compile hq hcompile
  have hfind : ∀ m' : Memory, m'.find collection q =
      .ok (stableSort s.before ((m'.documents collection).filter q.selects)) := by
    intro m'
    rw [find_of_sort hsort hlimit hoffset, hmatching]
    rfl
  refine ⟨_, hmatching m, fun kind hkind => ?_,
    fun _ => ⟨_, hfind m, stableSort_perm _ _, SortBy.pairwise_sorted⟩, fun h => ?_⟩
  · exact Bson.consistent_of_kind (List.forall_mem_map.mpr hkind)
  · obtain ⟨x, hx, y, hy, z, hz, hnot⟩ := SortBy.exists_not_pairwise h
    refine ⟨x, hx, y, hy, z, hz, fun m' hm' => ⟨_, hfind m', ?_⟩⟩
    rw [hm', List.filter_eq_self.mpr]
    · exact hnot
    · simp [(List.mem_filter.mp hx).2, (List.mem_filter.mp hy).2, (List.mem_filter.mp hz).2]

/-- A query for all documents in the order of their floors. -/
def byFloor (direction : Direction) : Query := Query.empty.withSort "floor" direction

def roomOnFloor (floor : Bson) : Bson := .document [("floor", floor)]

def threeFloors : Memory :=
  (empty.insert "rooms" [(roomId 1, roomOnFloor (.int32 2)), (roomId 2, roomOnFloor (.int64 3)),
    (roomId 3, roomOnFloor (.int32 1))]).2

theorem find_inOrder_threeFloors :
    ∃ found, threeFloors.find "rooms" (byFloor .descending) = .ok found ∧ found.length = 3 ∧
      found.Pairwise (SortBy.InOrder ⟨"floor", .descending⟩) := by
  obtain ⟨values, hvalues, hkind, hanswer, -⟩ :=
    find_inOrder (q := byFloor .descending) (by simp [byFloor, Query.empty, Query.withSort])
      (show Patterns.compile [] = .ok .empty from rfl) rfl rfl rfl threeFloors "rooms"
  have hall : threeFloors.matching "rooms" (byFloor .descending) =
      .ok [roomOnFloor (.int32 2), roomOnFloor (.int64 3), roomOnFloor (.int32 1)] := rfl
  rw [hall, Except.ok.injEq] at hvalues
  subst hvalues
  obtain ⟨found, hfound, hperm, hsorted⟩ := hanswer (Query.settled_of_few (by decide))
  refine ⟨found, hfound, hperm.length_eq, hsorted (hkind .integer ?_)⟩
  simp only [List.forall_mem_cons]
  exact ⟨.int32 2, .int64 3, .int32 1, by simp⟩

/-- Between two rooms a room without a floor, which keeps the lower one from its place. -/
def floorMissing : Memory :=
  (empty.insert "rooms" [(roomId 1, roomOnFloor (.int32 2)), (roomId 2, .document []),
    (roomId 3, roomOnFloor (.int32 1))]).2

/-- A query with a sort may find documents out of order. -/
theorem find_not_inOrder :
    ¬ ∀ (m : Memory) (collection : String) (q : Query) (ps : Patterns) (s : SortBy),
      (∀ c ∈ q.criteria, c.WellFormed) → Patterns.compile q.criteria = .ok ps →
        q.sort = some s → q.limit = none → q.offset = none →
          ∃ found, m.find collection q = .ok found ∧ found.Pairwise s.InOrder := by
  intro h
  obtain ⟨found, hfound, hsorted⟩ := h floorMissing "rooms" (byFloor .ascending) .empty
    ⟨"floor", .ascending⟩ (by simp [byFloor, Query.empty, Query.withSort]) rfl rfl rfl rfl
  have hall : floorMissing.find "rooms" (byFloor .ascending) =
      .ok [roomOnFloor (.int32 2), .document [], roomOnFloor (.int32 1)] := rfl
  rw [hall, Except.ok.injEq] at hfound
  subst hfound
  have hlast := (List.pairwise_cons.mp hsorted).1 (roomOnFloor (.int32 1)) (by simp)
  exact absurd rfl hlast

end Memory
end Sift
