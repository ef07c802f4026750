import Sift.Proofs.Memory.Distinct

/-!
# Values compared with themselves

An array is never equal to one of its elements (`not_same_of_mem`), so that an array is also
compared with through its elements does not help it: a value finds the documents that hold it if
and only if it is equal to itself, and that is if it holds no NaN (`equalsAny_self_iff`).

A value with a NaN is equal to nothing (`nanFree_of_same`).  Such values are listed as distinct
each time they are seen, while of the others no value is listed twice.
-/

namespace Sift

theorem exists_mem_of_forall₂ {α β : Type} {r : α → β → Prop} {xs : List α} {ys : List β}
    (h : List.Forall₂ r xs ys) {x : α} (hx : x ∈ xs) : ∃ y ∈ ys, r x y := by
  induction h with
  | nil => cases hx
  | @cons _ y _ ys hr _ ih =>
    rcases List.mem_cons.mp hx with rfl | hx
    · exact ⟨y, List.mem_cons_self, hr⟩
    · obtain ⟨y, hy, hr⟩ := ih hx
      exact ⟨y, List.mem_cons_of_mem _ hy, hr⟩

namespace Bson

instance (v : Bson) : Decidable v.NaNFree :=
  decidable_of_iff (∀ u ∈ v.leaves, ∀ x ∈ u.asDouble?, x.isNaN = false) <| by
    refine ⟨fun h x hx => h _ hx x rfl, fun h u hu x hx => ?_⟩
    cases u with
    | int32 _ | int64 _ =>
      rw [← Option.some.inj hx]
      exact Binary.isNaN_ofInt _ _
    | double d =>
      rw [← Option.some.inj hx]
      exact h d hu
    | _ => cases hx

theorem nanFree_of_same {x y : Bson} (h : x.same y = true) : x.NaNFree := by
  induction x using induction_parts generalizing y with
  | array items ih =>
    obtain ⟨others, -, hall⟩ := same_array_iff.mp h
    rw [nanFree_array_iff]
    intro item hitem
    obtain ⟨other, -, hsame⟩ := exists_mem_of_forall₂ hall hitem
    exact ih item hitem hsame
  | document fields ih =>
    obtain ⟨others, -, -, hall⟩ := same_document_iff.mp h
    rw [nanFree_document_iff]
    intro field hfield
    obtain ⟨other, -, hsame⟩ := hall field hfield
    exact ih field hfield hsame
  | leaf x hleaf =>
    rw [nanFree_iff_of_leaf hleaf]
    rintro d rfl
    rw [same_of_number (a := d) rfl] at h
    obtain ⟨b, hb⟩ := exists_asDouble?_of_sameNumber h
    exact (Binary.same_iff.mp (same_of_sameNumber rfl hb h)).1

theorem not_same_of_mem {items : List Bson} {item : Bson} (hitem : item ∈ items) :
    ¬ item.same (array items) = true := by
  induction item using induction_parts generalizing items with
  | array inner ih =>
    -- an element equal to the array around it has such an element in turn
    intro h
    obtain ⟨_, hitems, hall⟩ := same_array_iff.mp h
    rw [← array.inj hitems] at hall
    obtain ⟨v, hv, hsame⟩ := exists_mem_of_forall₂ hall.flip hitem
    exact ih v hv hv hsame
  | document fields _ =>
    intro h
    obtain ⟨_, hitems, -⟩ := same_document_iff.mp h
    exact Bson.noConfusion hitems
  | leaf v hleaf =>
    intro h
    exact Bool.noConfusion (isLeaf_of_same hleaf h)

theorem equalsAny_self_iff {v : Bson} (hv : v.Unique) : v.equalsAny v = true ↔ v.NaNFree := by
  rw [← same_self_iff hv]
  cases v with
  | array items =>
    simp only [equalsAny, candidates, List.any_cons, Bool.or_eq_true, List.any_eq_true]
    refine ⟨fun h => h.resolve_right ?_, .inl⟩
    rintro ⟨item, hitem, hsame⟩
    exact not_same_of_mem hitem hsame
  | _ => simp [equalsAny, candidates]

end Bson

namespace Memory

section

variable {m : Memory} {collection path : String} {d : Document} {v : Bson}

theorem finds_where_eq_iff (hstored : .document d ∈ m.documents collection)
    (hv : d.lookup path = some v) (bound : Bson) :
    m.Finds collection (Where.eq path bound) (.document d) ↔ v.equalsAny bound = true := by
  refine (finds_single_iff (by decide) hstored hv bound).trans ?_
  simp [Patterns.clauseHolds]

theorem finds_where_ne_iff (hstored : .document d ∈ m.documents collection)
    (hv : d.lookup path = some v) (bound : Bson) :
    m.Finds collection (Where.ne path bound) (.document d) ↔ ¬ v.equalsAny bound = true := by
  refine (finds_single_iff (by decide) hstored hv bound).trans ?_
  simp [Patterns.clauseHolds]

end

/-! ## Values with a NaN among the distinct ones -/

theorem filter_distinctValues {xs : List Bson} (h : ∀ x ∈ xs, x.Unique) :
    (distinctValues xs).filter (fun v => ¬ v.NaNFree) = xs.filter fun v => ¬ v.NaNFree := by
  induction xs using List.reverseRecOn with
  | nil => rfl
  | append_singleton xs x ih =>
    rw [List.forall_mem_append, List.forall_mem_singleton] at h
    rw [distinctValues_concat, List.filter_append, ← ih h.1]
    split
    · rename_i hseen
      obtain ⟨s, hs, hsame⟩ := List.any_eq_true.mp hseen
      have hsUnique := h.1 s ((firstSeen_distinctValues xs).sublist.subset hs)
      have hx : x.NaNFree := Bson.nanFree_of_same (Bson.same_symm hsUnique h.2 hsame)
      simp [hx]
    · rw [List.filter_append]

/-- A stored value finds its document by equality, and is kept from it by inequality, if and only if
it holds no NaN.  The distinct values at a path list a value without a NaN once at most, and a value
with a NaN as often as it is seen. -/
theorem finds_own_value_iff {m : Memory} {collection : String}
    (hunique : ∀ value ∈ m.documents collection, value.Unique) (path : String) :
    (∀ (d : Document) (v : Bson), .document d ∈ m.documents collection → d.lookup path = some v →
      (m.Finds collection (Where.eq path v) (.document d) ↔ v.NaNFree) ∧
      (m.Finds collection (Where.ne path v) (.document d) ↔ ¬ v.NaNFree)) ∧
    ∀ (q : Query) (ps : Patterns), (∀ c ∈ q.criteria, c.WellFormed) →
      Patterns.compile q.criteria = .ok ps →
        ∃ selected vs, m.matching collection q = .ok selected ∧
          m.distinct collection path q = .ok vs ∧
          (vs.Pairwise fun v w => v = w → ¬ v.NaNFree) ∧
          vs.filter (fun v => ¬ v.NaNFree) =
            (selected.flatMap (valuesAt path)).filter fun v => ¬ v.NaNFree := by
  refine ⟨fun d v hstored hv => ?_, fun q ps hq hcompile => ?_⟩
  · have hself := Bson.equalsAny_self_iff ((hunique _ hstored).lookup hv)
    rw [finds_where_eq_iff hstored hv, finds_where_ne_iff hstored hv, hself]
    exact ⟨.rfl, .rfl⟩
  · refine ⟨_, _, matching_of_compile hq hcompile, distinct_of_compile hq hcompile path, ?_⟩
    have hseen : ∀ x ∈ ((m.documents collection).filter q.selects).flatMap (valuesAt path),
        x.Unique :=
      unique_of_mem_valuesAt fun value hvalue => hunique value (List.mem_of_mem_filter hvalue)
    refine ⟨?_, filter_distinctValues hseen⟩
    have hlisted := firstSeen_distinctValues
      (((m.documents collection).filter q.selects).flatMap (valuesAt path))
    refine hlisted.unequal.imp_of_mem ?_
    rintro v _ hv - hsame rfl hnan
    rw [(Bson.same_self_iff (hseen v (hlisted.sublist.subset hv))).mpr hnan] at hsame
    cases hsame

def roomAtRate (rate : Bson) : Document := [("rate", rate)]

def nan : Bson := .double (.quietNaN _ false)

/-- Two rooms at a rate that is a NaN, and one at a rate of one. -/
def ratedRooms : Memory :=
  (empty.insert "rooms"
    [(roomId 1, .document (roomAtRate nan)), (roomId 2, .document (roomAtRate nan)),
      (roomId 3, .document (roomAtRate (.int32 1)))]).2

theorem unique_ratedRooms : ∀ value ∈ ratedRooms.documents "rooms", value.Unique := by
  have hdocuments : ratedRooms.documents "rooms" = [.document (roomAtRate nan),
      .document (roomAtRate nan), .document (roomAtRate (.int32 1))] := rfl
  simp [hdocuments, roomAtRate, nan, Bson.Unique, Bson.UniqueFields]

theorem not_nanFree_nan : ¬ nan.NaNFree := by
  decide +kernel

theorem finds_own_value_iff_ratedRooms :
    ¬ ratedRooms.Finds "rooms" (Where.eq "rate" nan) (.document (roomAtRate nan)) ∧
    ratedRooms.Finds "rooms" (Where.eq "rate" (.int32 1)) (.document (roomAtRate (.int32 1))) ∧
    ∃ vs, ratedRooms.distinct "rooms" "rate" .empty = .ok vs ∧
      vs.filter (fun v => ¬ v.NaNFree) = [nan, nan] := by
  obtain ⟨hfinds, hdistinct⟩ := finds_own_value_iff unique_ratedRooms "rate"
  obtain ⟨selected, vs, hselected, hvs, -, hlisted⟩ :=
    hdistinct .empty .empty (by simp [Query.empty]) rfl
  have hall : ratedRooms.matching "rooms" .empty = .ok (ratedRooms.documents "rooms") := rfl
  have hseen : (ratedRooms.documents "rooms").flatMap (valuesAt "rate") = [nan, nan, .int32 1] :=
    rfl
  have hone : (Bson.int32 1).NaNFree := by decide +kernel
  rw [hall, Except.ok.injEq] at hselected
  rw [← hselected, hseen] at hlisted
  refine ⟨fun h => ?_, ?_, vs, hvs, ?_⟩
  · exact not_nanFree_nan ((hfinds (roomAtRate nan) nan List.mem_cons_self rfl).1.mp h)
  · exact (hfinds _ _ (List.mem_of_getLast? rfl) rfl).1.mpr hone
  · simpa [not_nanFree_nan, hone] using hlisted

/-- A stored value may fail to find its document. -/
theorem own_value_not_found :
    ¬ ∀ (m : Memory) (collection path : String) (d : Document) (v : Bson),
      (∀ value ∈ m.documents collection, value.Unique) →
        .document d ∈ m.documents collection → d.lookup path = some v →
          m.Finds collection (Where.eq path v) (.document d) := by
  intro h
  have hstored : .document (roomAtRate nan) ∈ ratedRooms.documents "rooms" := List.mem_cons_self
  have hfinds := h ratedRooms "rooms" "rate" (roomAtRate nan) nan unique_ratedRooms hstored rfl
  have hself : nan.equalsAny nan = true := (finds_where_eq_iff hstored rfl nan).mp hfinds
  exact not_nanFree_nan ((Bson.equalsAny_self_iff (by simp [nan, Bson.Unique])).mp hself)

end Memory
end Sift
