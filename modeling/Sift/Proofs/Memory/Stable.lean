import Sift.Proofs.Match.Range
import Sift.Proofs.Memory.Sort

/-!
# Documents with equal keys

Where all keys are of one kind, every two of them are ordered or equal, and being in order together
with the order in which documents with equal keys came leaves one arrangement of the documents
(`Arranges.unique`).  A sort finds it (`arranges_sorted`): a member moves forward past members that
it comes strictly before and past no other, so it stays behind those with an equal key, whether the
keys go up or down.

`find_stable` says so of the documents that a query finds, of which it then cuts out its window.
-/

namespace Sift

section

variable {α : Type} {before : α → α → Bool} {P : α → Prop}

/-! ## Members that are kept in order -/

/-- No member of a class is moved past another one of it. -/
theorem filter_insertFromEnd {p : α → Bool}
    (hp : ∀ x y, P x → P y → p x = true → p y = true → before x y = false) {x : α} (hx : P x)
    {ys : List α} (hys : ∀ y ∈ ys, P y) :
    (insertFromEnd before x ys).filter p = (x :: ys).filter p := by
  induction ys with
  | nil => rfl
  | cons y ys ih =>
    rw [List.forall_mem_cons] at hys
    unfold insertFromEnd
    by_cases hxy : before x y = true
    · have hrest := ih hys.2
      rw [if_pos hxy, List.filter_cons, hrest]
      by_cases hpx : p x = true
      · have hpy : p y ≠ true := fun hpy => by
          rw [hp x y hx hys.1 hpx hpy] at hxy
          cases hxy
        simp [hpx, hpy]
      · simp [hpx, List.filter_cons]
    · rw [if_neg hxy]

theorem filter_stableSort {p : α → Bool}
    (hp : ∀ x y, P x → P y → p x = true → p y = true → before x y = false) {xs : List α}
    (hxs : ∀ x ∈ xs, P x) : (stableSort before xs).filter p = xs.filter p := by
  -- what is sorted already is given from its end
  have key : ∀ (xs sorted : List α), (∀ x ∈ xs, P x) → (∀ x ∈ sorted, P x) →
      (xs.foldl (fun sorted x => insertFromEnd before x sorted) sorted).filter p =
        (xs.filter p).reverse ++ sorted.filter p := by
    intro xs
    induction xs with
    | nil => exact fun _ _ _ => rfl
    | cons x xs ih =>
      intro sorted hxs hsorted
      rw [List.forall_mem_cons] at hxs
      have hinserted : ∀ y ∈ insertFromEnd before x sorted, P y := fun y hy => by
        rcases List.mem_cons.mp ((insertFromEnd_perm before x sorted).mem_iff.mp hy) with rfl | hy
        · exact hxs.1
        · exact hsorted y hy
      rw [List.foldl_cons, ih _ hxs.2 hinserted, filter_insertFromEnd hp hxs.1 hsorted]
      by_cases hpx : p x = true <;> simp [hpx]
  have hall := key xs [] hxs (by simp)
  rw [List.filter_nil, List.append_nil] at hall
  rw [stableSort, List.filter_reverse, hall, List.reverse_reverse]

variable {R : α → α → Prop} {tied : α → α → Bool} {xs ys : List α}

theorem mem_iff_of_filter (hself : ∀ x, P x → tied x x = true)
    (h : ∀ z, P z → xs.filter (tied z) = ys.filter (tied z)) {z : α} (hz : P z) :
    z ∈ xs ↔ z ∈ ys := by
  have hiff : z ∈ xs.filter (tied z) ↔ z ∈ ys.filter (tied z) := by rw [h z hz]
  simpa [List.mem_filter, hself z hz] using hiff

/-- Two lists in order are equal if they have the members of each class in the same order. -/
theorem eq_of_pairwise_of_filter (hself : ∀ x, P x → tied x x = true)
    (hties : ∀ x y, P x → P y → R x y → R y x → tied x y = true) (hxs : ∀ x ∈ xs, P x)
    (hys : ∀ y ∈ ys, P y) (hx : xs.Pairwise R) (hy : ys.Pairwise R)
    (h : ∀ z, P z → xs.filter (tied z) = ys.filter (tied z)) : xs = ys := by
  induction xs generalizing ys with
  | nil =>
    refine (List.eq_nil_iff_forall_not_mem.mpr fun y hmem => ?_).symm
    exact List.not_mem_nil ((mem_iff_of_filter hself h (hys y hmem)).mpr hmem)
  | cons x xs ih =>
    rw [List.forall_mem_cons] at hxs
    rw [List.pairwise_cons] at hx
    have hmemx := (mem_iff_of_filter hself h hxs.1).mp List.mem_cons_self
    cases ys with
    | nil => exact absurd hmemx List.not_mem_nil
    | cons y ys =>
      rw [List.forall_mem_cons] at hys
      rw [List.pairwise_cons] at hy
      have hmemy := (mem_iff_of_filter hself h hys.1).mpr List.mem_cons_self
      have htied : tied x y = true := by
        rcases List.mem_cons.mp hmemy with rfl | hmemy
        · exact hself y hys.1
        · rcases List.mem_cons.mp hmemx with rfl | hmemx
          · exact hself x hxs.1
          · exact hties x y hxs.1 hys.1 (hx.1 y hmemy) (hy.1 x hmemx)
      -- both heads are the first of their class
      have hhead := h x hxs.1
      rw [List.filter_cons_of_pos (hself x hxs.1), List.filter_cons_of_pos htied,
        List.cons.injEq] at hhead
      obtain rfl := hhead.1
      have hrest : ∀ z, P z → xs.filter (tied z) = ys.filter (tied z) := fun z hz => by
        have hz := h z hz
        by_cases hzx : tied z x = true
        · rw [List.filter_cons_of_pos hzx, List.filter_cons_of_pos hzx] at hz
          exact (List.cons.inj hz).2
        · rwa [List.filter_cons_of_neg hzx, List.filter_cons_of_neg hzx] at hz
      rw [ih hxs.2 hys.2 hx.2 hy.2 hrest]

end

/-! ## Values of one kind -/

namespace Bson

variable {kind : OrderedKind} {x y z : Bson}

theorem OfKind.exists_compare? (hx : OfKind kind x) (hy : OfKind kind y) :
    ∃ o, x.compare? y = some o := by
  refine Option.isSome_iff_exists.mp (isSome_compare?_iff.mpr ?_)
  cases hx <;> cases hy <;> simp [rangeKind?, isNaN, *]

/-- The values stand at one place in the order. -/
def tied (x y : Bson) : Bool := x.compare? y == some .eq

theorem OfKind.tied_iff (hx : OfKind kind x) (hy : OfKind kind y) :
    x.tied y = true ↔ x.NotAfter y ∧ y.NotAfter x := by
  obtain ⟨o, ho⟩ := hx.exists_compare? hy
  rw [tied, NotAfter, NotAfter, ← compare?_swap x y, ho]
  cases o <;> simp

theorem OfKind.tied_trans (hx : OfKind kind x) (hy : OfKind kind y) (hz : OfKind kind z)
    (hxy : x.tied y = true) (hyz : y.tied z = true) : x.tied z = true := by
  rw [hx.tied_iff hy] at hxy
  rw [hy.tied_iff hz] at hyz
  exact (hx.tied_iff hz).mpr ⟨hxy.1.trans_of_kind hx hy hz hyz.1,
    hyz.2.trans_of_kind hz hy hx hxy.2⟩

/-- Values of one kind that are equal are tied, and only lookalikes are tied besides. -/
theorem OfKind.tied_eq (hy : OfKind kind y) (x : Bson) :
    x.tied y = (x.same y || x.lookalike y) := by
  have hrange : y.rangeKind?.isSome = true := by cases hy <;> rfl
  rw [← any_compare?_eq hrange, tied]
  cases x.compare? y <;> rfl

end Bson

/-! ## Documents with keys of one kind -/

namespace SortBy

/-- The keys of the two documents stand at one place in the order. -/
def tied (s : SortBy) (x y : Bson) : Bool := (sortKey s.field x).tied (sortKey s.field y)

/-- The found documents are all of the values, in order by their keys, and those with equal keys in
the order in which they came. -/
structure Arranges (s : SortBy) (values found : List Bson) : Prop where
  perm : found.Perm values
  inOrder : found.Pairwise s.InOrder
  keeps : ∀ x ∈ values, found.filter (s.tied x) = values.filter (s.tied x)

variable {s : SortBy} {kind : Bson.OrderedKind} {values : List Bson}
  (hkind : ∀ x ∈ values, Bson.OfKind kind (sortKey s.field x))
include hkind

theorem tied_iff {x y : Bson} (hx : x ∈ values) (hy : y ∈ values) :
    s.tied x y = true ↔ s.InOrder x y ∧ s.InOrder y x := by
  rw [tied, (hkind x hx).tied_iff (hkind y hy)]
  unfold InOrder
  cases s.direction
  · exact Iff.rfl
  · exact and_comm

theorem tied_self {x : Bson} (hx : x ∈ values) : s.tied x x = true := by
  have horder : s.InOrder x x := by
    rw [← before_eq_false_iff]
    by_contra h
    rw [Bool.not_eq_false] at h
    rw [s.before_asymm x x h] at h
    cases h
  exact (tied_iff hkind hx hx).mpr ⟨horder, horder⟩

theorem before_of_tied {x y z : Bson} (hx : x ∈ values) (hy : y ∈ values) (hz : z ∈ values)
    (hzx : s.tied z x = true) (hzy : s.tied z y = true) : s.before x y = false := by
  have hxz : s.tied x z = true :=
    (tied_iff hkind hx hz).mpr ((tied_iff hkind hz hx).mp hzx).symm
  rw [before_eq_false_iff]
  exact ((tied_iff hkind hx hy).mp
    ((hkind x hx).tied_trans (hkind z hz) (hkind y hy) hxz hzy)).2

/-- A sort arranges documents with keys of one kind. -/
theorem arranges_sorted : s.Arranges values (stableSort s.before values) where
  perm := stableSort_perm s.before values
  inOrder := pairwise_sorted (Bson.consistent_of_kind (List.forall_mem_map.mpr hkind))
  keeps := fun _ hz => filter_stableSort (P := (· ∈ values))
    (fun _ _ hx hy hzx hzy => before_of_tied hkind hx hy hz hzx hzy) fun _ hx => hx

/-- There is one arrangement of documents with keys of one kind. -/
theorem Arranges.unique {xs ys : List Bson} (hx : s.Arranges values xs)
    (hy : s.Arranges values ys) : xs = ys := by
  refine eq_of_pairwise_of_filter (fun x => tied_self hkind)
    (fun x y hmemx hmemy hxy hyx => (tied_iff hkind hmemx hmemy).mpr ⟨hxy, hyx⟩)
    (fun x => hx.perm.mem_iff.mp) (fun y => hy.perm.mem_iff.mp) hx.inOrder hy.inOrder ?_
  exact fun z hz => (hx.keeps z hz).trans (hy.keeps z hz).symm

end SortBy

/-! ## What a query finds -/

namespace Query

/-- A window takes members from its offset on, as many as its limit says. -/
theorem getElem?_window {α : Type} (q : Query) (xs : List α) (i : Nat) :
    (q.window xs)[i]? = if ∀ n ∈ q.limit, i < n then xs[q.offset.getD 0 + i]? else none := by
  unfold window
  cases q.limit with
  | none => simp
  | some n => simp [List.getElem?_take]

end Query

namespace Memory

/-- A query whose matches have keys of one kind finds a window of the one arrangement of them that
is in order and keeps documents with equal keys as they came.  Binary keys count as equal here also
if they are lookalikes, which a sort cannot tell apart. -/
theorem find_stable {q : Query} (hq : ∀ c ∈ q.criteria, c.WellFormed) {ps : Patterns}
    (hcompile : Patterns.compile q.criteria = .ok ps) {s : SortBy} (hsort : q.sort = some s)
    (m : Memory) (collection : String) {kind : Bson.OrderedKind}
    (hkind : ∀ x ∈ (m.documents collection).filter q.selects,
      Bson.OfKind kind (sortKey s.field x)) :
    (∀ y ∈ (m.documents collection).filter q.selects, ∀ x, s.tied x y =
      ((sortKey s.field x).same (sortKey s.field y) ||
        (sortKey s.field x).lookalike (sortKey s.field y))) ∧
    ∃ sorted found,
      (∀ xs, s.Arranges ((m.documents collection).filter q.selects) xs ↔ xs = sorted) ∧
      m.find collection q = .ok found ∧
      ∀ i, found[i]? =
        if ∀ n ∈ q.limit, i < n then sorted[q.offset.getD 0 + i]? else none := by
  have harranges := SortBy.arranges_sorted hkind
  refine ⟨fun y hy x => (hkind y hy).tied_eq _, _, _,
    fun xs => ⟨fun h => h.unique hkind harranges, fun h => h ▸ harranges⟩, ?_,
    q.getElem?_window _⟩
  rw [find, matching_of_compile hq hcompile]
  simp only [Except.map, Query.order, hsort]

def namedRoom (name : String) (floor : Bson) : Bson :=
  .document [("name", .string name), ("floor", floor)]

/-- Two rooms are on one floor, written in two widths, and the attic is on none. -/
def tiedFloors : Memory :=
  (empty.insert "rooms" [(roomId 1, namedRoom "hall" (.int32 1)),
    (roomId 2, namedRoom "study" (.int32 2)), (roomId 3, .document [("name", .string "attic")]),
    (roomId 4, namedRoom "bath" (.int64 2)), (roomId 5, namedRoom "loft" (.int32 3))]).2

/-- The second and the third from above of the rooms on a floor. -/
def belowTop : Query :=
  ⟨[Where.gte "floor" (.int32 1)], some 2, some 1, some ⟨"floor", .descending⟩⟩

theorem find_stable_tiedFloors :
    let values := [namedRoom "hall" (.int32 1), namedRoom "study" (.int32 2),
      namedRoom "bath" (.int64 2), namedRoom "loft" (.int32 3)]
    (tiedFloors.documents "rooms").filter belowTop.selects = values ∧
    (∀ x ∈ values, Bson.OfKind .integer (sortKey "floor" x)) ∧
    (SortBy.mk "floor" .descending).tied (namedRoom "study" (.int32 2))
      (namedRoom "bath" (.int64 2)) = true ∧
    (∀ xs, (SortBy.mk "floor" .descending).Arranges values xs ↔
      xs = [namedRoom "loft" (.int32 3), namedRoom "study" (.int32 2),
        namedRoom "bath" (.int64 2), namedRoom "hall" (.int32 1)]) ∧
    tiedFloors.find "rooms" belowTop =
      .ok [namedRoom "study" (.int32 2), namedRoom "bath" (.int64 2)] := by
  intro values
  have hvalues : (tiedFloors.documents "rooms").filter belowTop.selects = values := rfl
  have hkind : ∀ x ∈ values, Bson.OfKind .integer (sortKey "floor" x) := by
    simp only [values, List.forall_mem_cons]
    exact ⟨.int32 1, .int32 2, .int64 2, .int32 3, by simp⟩
  have hq : ∀ c ∈ belowTop.criteria, c.WellFormed := by
    intro c hc
    rw [List.mem_singleton.mp hc]
    exact Criterion.wellFormed_single _ _ _
  obtain ⟨htied, sorted, found, harranges, hfind, hwindow⟩ :=
    find_stable hq (show Patterns.compile belowTop.criteria = .ok .empty from rfl) rfl tiedFloors
      "rooms" (s := ⟨"floor", .descending⟩) (hvalues ▸ hkind)
  rw [hvalues] at htied harranges
  have hsorted := (harranges _).mp (SortBy.arranges_sorted hkind)
  refine ⟨hvalues, hkind, htied _ (by simp [values]) _, fun xs => ?_, ?_⟩
  · rw [harranges, ← hsorted]
    rfl
  · have hfound : found = [namedRoom "study" (.int32 2), namedRoom "bath" (.int64 2)] := by
      refine List.ext_getElem? fun i => ?_
      rw [hwindow, ← hsorted]
      exact (belowTop.getElem?_window _ i).symm
    rw [hfind, hfound]

end Memory
end Sift
