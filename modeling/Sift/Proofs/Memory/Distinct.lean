import Mathlib.Data.List.Induction
import Sift.Proofs.Match.Negation
import Sift.Proofs.Memory.Insert

/-!
# Distinct values as choices

Of the values found at a path, those stay that are equal to none listed before (`FirstSeen`).  What
stays was found as it is, and what does not is equal to something that stays.

So each value listed is a choice that finds a document, and each document is found by a choice, as
long as there is no NaN: a value with a NaN is listed each time, and no equality finds it.
-/

namespace Sift

/-- What is listed of the values seen: in their order, no two that are equal, and each one as soon
as it is seen unless an equal one is listed. -/
structure FirstSeen (seen listed : List Bson) : Prop where
  sublist : listed.Sublist seen
  unequal : listed.Pairwise fun v w => v.same w = false
  first : ∀ before v after, listed = before ++ v :: after →
    ∃ earlier later, seen = earlier ++ v :: later ∧
      ∀ x ∈ earlier, ∃ b ∈ before, b = x ∨ b.same x = true
  covers : ∀ x ∈ seen, ∃ v ∈ listed, v = x ∨ v.same x = true

namespace FirstSeen

variable {seen listed : List Bson} {s x : Bson}

theorem nil : FirstSeen [] [] := by
  refine ⟨.slnil, .nil, fun before v after h => ?_, by simp⟩
  simp at h

theorem concat_of_same (h : FirstSeen seen listed) (hs : s ∈ listed) (hsame : s.same x = true) :
    FirstSeen (seen ++ [x]) listed := by
  refine ⟨h.sublist.trans (List.sublist_append_left seen [x]), h.unequal, ?_, fun y hy => ?_⟩
  · intro before v after hsplit
    obtain ⟨earlier, later, rfl, hearlier⟩ := h.first before v after hsplit
    exact ⟨earlier, later ++ [x], by simp, hearlier⟩
  · rcases List.mem_append.mp hy with hy | hy
    · exact h.covers y hy
    · rw [List.mem_singleton.mp hy]
      exact ⟨s, hs, .inr hsame⟩

theorem concat_of_new (h : FirstSeen seen listed) (hnew : ∀ s ∈ listed, s.same x = false) :
    FirstSeen (seen ++ [x]) (listed ++ [x]) := by
  refine ⟨h.sublist.append (.refl [x]), ?_, fun before v after hsplit => ?_, fun y hy => ?_⟩
  · refine List.pairwise_append.mpr ⟨h.unequal, List.pairwise_singleton _ x, fun s hs y hy => ?_⟩
    rw [List.mem_singleton.mp hy]
    exact hnew s hs
  · -- the value is the new one, or stands in what was listed before it
    rcases List.eq_nil_or_concat' after with rfl | ⟨after, last, rfl⟩
    · obtain ⟨rfl, hv⟩ := List.append_inj' hsplit rfl
      rw [← List.singleton_inj.mp hv]
      exact ⟨seen, [], rfl, h.covers⟩
    · rw [← List.cons_append, ← List.append_assoc] at hsplit
      obtain ⟨hsplit, -⟩ := List.append_inj' hsplit rfl
      obtain ⟨earlier, later, rfl, hearlier⟩ := h.first before v after hsplit
      exact ⟨earlier, later ++ [x], by simp, hearlier⟩
  · rcases List.mem_append.mp hy with hy | hy
    · obtain ⟨v, hv, hvy⟩ := h.covers y hy
      exact ⟨v, List.mem_append_left [x] hv, hvy⟩
    · exact ⟨x, by simp, .inl (List.mem_singleton.mp hy).symm⟩

end FirstSeen

namespace Memory

theorem distinctValues_concat (xs : List Bson) (x : Bson) :
    distinctValues (xs ++ [x]) =
      if (distinctValues xs).any fun s => s.same x then distinctValues xs
      else distinctValues xs ++ [x] := by
  simp [distinctValues]

theorem firstSeen_distinctValues (xs : List Bson) : FirstSeen xs (distinctValues xs) := by
  induction xs using List.reverseRecOn with
  | nil => exact .nil
  | append_singleton xs x ih =>
    rw [distinctValues_concat]
    split
    · rename_i hseen
      obtain ⟨s, hs, hsame⟩ := List.any_eq_true.mp hseen
      exact ih.concat_of_same hs hsame
    · rename_i hnew
      exact ih.concat_of_new (by simpa using hnew)

/-! ## Values at a path -/

theorem mem_valuesAt {path : String} {v value : Bson} :
    v ∈ valuesAt path value ↔
      ∃ (d : Document) (found : Bson),
        value = .document d ∧ d.lookup path = some found ∧ v ∈ found.members := by
  unfold valuesAt
  cases value with
  | document d => cases hfound : Document.lookup d path <;> simp [Bson.asDocument?, hfound]
  | _ => simp [Bson.asDocument?]

theorem mem_flatMap_valuesAt {path : String} {v : Bson} {values : List Bson} :
    v ∈ values.flatMap (valuesAt path) ↔
      ∃ (d : Document) (found : Bson),
        .document d ∈ values ∧ d.lookup path = some found ∧ v ∈ found.members := by
  simp only [List.mem_flatMap, mem_valuesAt]
  constructor
  · rintro ⟨_, hvalue, d, found, rfl, hfound, hv⟩
    exact ⟨d, found, hvalue, hfound, hv⟩
  · rintro ⟨d, found, hvalue, hfound, hv⟩
    exact ⟨_, hvalue, d, found, rfl, hfound, hv⟩

theorem unique_of_mem_valuesAt {path : String} {values : List Bson} (h : ∀ v ∈ values, v.Unique) :
    ∀ v ∈ values.flatMap (valuesAt path), v.Unique := by
  intro v hv
  obtain ⟨d, found, hd, hfound, hmem⟩ := mem_flatMap_valuesAt.mp hv
  have hfoundUnique := (h _ hd).lookup hfound
  exact hfoundUnique.candidates (Bson.members_subset_candidates found hmem)

/-- The criterion alone finds the value in a collection. -/
def Finds (m : Memory) (collection : String) (c : Criterion) (value : Bson) : Prop :=
  ∃ found, m.find collection (Query.empty.withCriterion c) = .ok found ∧ value ∈ found

theorem finds_single_iff {op : Operator} (hop : op ≠ .regex) {m : Memory}
    {collection path : String} {d : Document} {v : Bson}
    (hd : .document d ∈ m.documents collection) (hv : d.lookup path = some v) (bound : Bson) :
    m.Finds collection (.single path op bound) (.document d) ↔
      Patterns.empty.clauseHolds op bound v = .ok true := by
  have hfind := find_single hop m collection path bound
  have hholds := Criterion.holds_single hop path bound d
  rw [hv, Patterns.clauseHoldsAt] at hholds
  simp only [Finds, hfind, Except.ok.injEq, exists_eq_left', List.mem_filter, hd, true_and,
    Bson.asDocument?, Option.any_some, hholds]
  cases Patterns.empty.clauseHolds op bound v with
  | error e => simp [Except.toOption]
  | ok b => simp [Except.toOption]

theorem finds_eq {m : Memory} {collection path : String} {d : Document} {found x v : Bson}
    (hd : .document d ∈ m.documents collection) (hfound : d.lookup path = some found)
    (hx : x ∈ found.members) (hsame : x.same v = true) :
    m.Finds collection (Where.eq path v) (.document d) := by
  refine (finds_single_iff (by decide) hd hfound v).mpr ?_
  have hany : found.equalsAny v = true :=
    List.any_eq_true.mpr ⟨x, Bson.members_subset_candidates found hx, hsame⟩
  rw [Patterns.clauseHolds, hany]

/-! ## Choices -/

section

variable {q : Query} {ps : Patterns} {m : Memory} {collection : String}

theorem distinct_of_compile (hq : ∀ c ∈ q.criteria, c.WellFormed)
    (hcompile : Patterns.compile q.criteria = .ok ps) (path : String) :
    m.distinct collection path q = .ok (distinctValues
      (((m.documents collection).filter q.selects).flatMap (valuesAt path))) := by
  rw [distinct, matching_of_compile hq hcompile]
  rfl

/-- The distinct values at a path are values found there, no two of them equal, in first-seen order.
Each one without a NaN is a choice that finds a document that the query selects.  Each such document
with a value that holds no NaN, or an array with such an element, is found by one of the choices. -/
theorem distinct_choices (hq : ∀ c ∈ q.criteria, c.WellFormed)
    (hcompile : Patterns.compile q.criteria = .ok ps)
    (hunique : ∀ value ∈ m.documents collection, value.Unique) (path : String) :
    ∃ selected vs, m.matching collection q = .ok selected ∧
      m.distinct collection path q = .ok vs ∧
      (∀ v ∈ vs, ∃ (d : Document) (found : Bson),
        .document d ∈ selected ∧ d.lookup path = some found ∧ v ∈ found.members) ∧
      (vs.Pairwise fun v w => v.same w = false ∧ w.same v = false) ∧
      FirstSeen (selected.flatMap (valuesAt path)) vs ∧
      (∀ v ∈ vs, v.NaNFree → ∃ d, .document d ∈ selected ∧
        m.Finds collection (Where.eq path v) (.document d)) ∧
      ∀ (d : Document) (found : Bson), .document d ∈ selected → d.lookup path = some found →
        (∃ x ∈ found.members, x.NaNFree) →
          ∃ v ∈ vs, m.Finds collection (Where.eq path v) (.document d) := by
  have hseen := firstSeen_distinctValues
    (((m.documents collection).filter q.selects).flatMap (valuesAt path))
  refine ⟨_, _, matching_of_compile hq hcompile, distinct_of_compile hq hcompile path, ?_⟩
  have hstored : (m.documents collection).filter q.selects ⊆ m.documents collection :=
    List.filter_subset_self _
  generalize (m.documents collection).filter q.selects = selected at hseen hstored ⊢
  generalize distinctValues (selected.flatMap (valuesAt path)) = vs at hseen ⊢
  have hplace : ∀ v ∈ vs, v ∈ selected.flatMap (valuesAt path) := fun v hv =>
    hseen.sublist.subset hv
  have hunique : ∀ x ∈ selected.flatMap (valuesAt path), x.Unique :=
    unique_of_mem_valuesAt fun value hvalue => hunique value (hstored hvalue)
  refine ⟨fun v hv => mem_flatMap_valuesAt.mp (hplace v hv), ?_, hseen, fun v hv hnan => ?_,
    fun d found hd hfound hx => ?_⟩
  · refine hseen.unequal.imp_of_mem fun hv hw h => ⟨h, ?_⟩
    rw [Bson.same_comm (hunique _ (hplace _ hw)) (hunique _ (hplace _ hv))]
    exact h
  · obtain ⟨d, found, hd, hfound, hmem⟩ := mem_flatMap_valuesAt.mp (hplace v hv)
    have hself := (Bson.same_self_iff (hunique v (hplace v hv))).mpr hnan
    exact ⟨d, hd, finds_eq (hstored hd) hfound hmem hself⟩
  · obtain ⟨x, hx, hnan⟩ := hx
    have hat := mem_flatMap_valuesAt.mpr ⟨d, found, hd, hfound, hx⟩
    obtain ⟨v, hv, hvx⟩ := hseen.covers x hat
    refine ⟨v, hv, finds_eq (hstored hd) hfound hx ?_⟩
    rcases hvx with rfl | hvx
    · exact (Bson.same_self_iff (hunique v hat)).mpr hnan
    · exact Bson.same_symm (hunique v (hplace v hv)) (hunique x hat) hvx

end

/-- Rooms with tags: a NaN among them, and a one as an integer and as a double. -/
def taggedRooms : Memory :=
  (empty.insert "rooms"
    [(roomId 1, .document [("tags", .array [.string "quiet", .double (.quietNaN _ false)])]),
      (roomId 2, .document [("tags", .array [.int64 1, .string "quiet"])]),
      (roomId 3, .document [("tags", .double (.ofInt _ 1))])]).2

theorem distinct_choices_taggedRooms :
    let choices := [Bson.string "quiet", .double (.quietNaN _ false), .int64 1]
    taggedRooms.distinct "rooms" "tags" .empty = .ok choices ∧
      ∃ v ∈ choices, taggedRooms.Finds "rooms" (Where.eq "tags" v)
        (.document [("tags", .double (.ofInt _ 1))]) := by
  intro choices
  have hunique : ∀ value ∈ taggedRooms.documents "rooms", value.Unique := by
    have hdocuments : taggedRooms.documents "rooms" =
        [.document [("tags", .array [.string "quiet", .double (.quietNaN _ false)])],
          .document [("tags", .array [.int64 1, .string "quiet"])],
          .document [("tags", .double (.ofInt _ 1))]] := rfl
    simp [hdocuments, Bson.Unique, Bson.UniqueItems, Bson.UniqueFields]
  obtain ⟨selected, vs, hselected, hvs, -, -, -, -, hfinds⟩ :=
    distinct_choices (q := .empty) (by simp [Query.empty])
      (show Patterns.compile [] = .ok .empty from rfl) hunique "tags"
  have hall : taggedRooms.matching "rooms" .empty = .ok (taggedRooms.documents "rooms") := rfl
  have hone := Binary.same_self_iff.mpr (Binary.isNaN_ofInt .double 1)
  have hnan : (Binary.ofInt .double 1).same (.quietNaN _ false) = false := by decide +kernel
  have hchoices : taggedRooms.distinct "rooms" "tags" .empty = .ok choices := by
    have hseen : (taggedRooms.documents "rooms").flatMap (valuesAt "tags") =
        [.string "quiet", .double (.quietNaN _ false), .int64 1, .string "quiet",
          .double (.ofInt _ 1)] := rfl
    rw [distinct, hall]
    simp [Except.map, hseen, distinctValues, Bson.same, hone, hnan, choices]
  rw [hall, Except.ok.injEq] at hselected
  rw [hchoices, Except.ok.injEq] at hvs
  subst hselected hvs
  refine ⟨hchoices, hfinds _ _ (List.mem_of_getLast? rfl) rfl ⟨_, List.mem_singleton_self _, ?_⟩⟩
  exact (Bson.same_self_iff (by simp [Bson.Unique])).mp hone

end Memory
end Sift
