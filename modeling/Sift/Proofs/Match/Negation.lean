import Sift.Proofs.Bson.Same
import Sift.Proofs.Match.Select

/-!
# Negations and lists of values

`ne` holds just where `eq` does not, and `nin` just where `in` does not, also where there is no
value.  So the documents that one of them finds are those that the other one leaves
(`Memory.Parts`).

`in` holds where `eq` holds for one of the listed values.  The two go through candidates and listed
values in another order and compare them the other way round, so this rests on the symmetry of
equality.
-/

namespace Sift

namespace Bson

theorem Unique.candidates {v c : Bson} (h : v.Unique) (hc : c ∈ v.candidates) : c.Unique := by
  cases v with
  | array items =>
    rcases List.mem_cons.mp hc with rfl | hc
    · exact h
    · exact unique_array_iff.mp h c hc
  | _ =>
    rw [List.mem_singleton.mp hc]
    exact h

theorem members_subset_candidates (v : Bson) : v.members ⊆ v.candidates := by
  cases v with
  | array items => exact List.subset_cons_self _ items
  | _ => exact List.Subset.refl _

theorem isAnyOf_array {v : Bson} (hv : v.Unique) {listed : List Bson}
    (hlisted : ∀ m ∈ listed, m.Unique) :
    v.isAnyOf (.array listed) = listed.any fun m => v.equalsAny m := by
  rw [Bool.eq_iff_iff]
  simp only [isAnyOf, equalsAny, members, List.any_eq_true]
  constructor
  · rintro ⟨c, hc, m, hm, hsame⟩
    exact ⟨m, hm, c, hc, same_symm (hlisted m hm) (hv.candidates hc) hsame⟩
  · rintro ⟨m, hm, c, hc, hsame⟩
    exact ⟨c, hc, m, hm, same_symm (hv.candidates hc) (hlisted m hm) hsame⟩

end Bson

/-! ## Queries with one clause -/

section

variable {op : Operator}

theorem Patterns.compile_single (hop : op ≠ .regex) (field : String) (bound : Bson) :
    compile [.single field op bound] = .ok .empty := by
  have hclause : (Criterion.single field op bound).clause? .regex = none := by
    simp [Criterion.clause?, Criterion.single, Keyed.get?, hop]
  simp [compile, addCriterion, hclause, bind, Except.bind, pure, Except.pure]

theorem Criterion.holds_single (hop : op ≠ .regex) (field : String) (bound : Bson) (d : Document) :
    (single field op bound).holds d =
      (Patterns.empty.clauseHoldsAt (d.lookup field) op bound).toOption.getD false := by
  rw [holds, Patterns.compile_single hop]
  simp only [Except.bind, Patterns.criterionHolds, single, List.allM]
  cases Patterns.empty.clauseHoldsAt (d.lookup field) op bound with
  | error e => rfl
  | ok b => cases b <;> rfl

/-- A clause without a pattern finds the documents for which it holds. -/
theorem Memory.find_single (hop : op ≠ .regex) (m : Memory) (collection field : String)
    (bound : Bson) :
    m.find collection (Query.empty.withCriterion (.single field op bound)) =
      .ok ((m.documents collection).filter fun value =>
        value.asDocument?.any fun d => (Criterion.single field op bound).holds d) := by
  have hwf : ∀ c ∈ [Criterion.single field op bound], c.WellFormed := by
    simp [Criterion.wellFormed_single]
  refine (find_eq_matching m collection [.single field op bound]).trans ?_
  rw [matching_of_compile hwf (Patterns.compile_single hop field bound)]
  refine congrArg _ (List.filter_congr fun value _ => ?_)
  simp [Query.selects]

end

/-! ## Clauses and their negations -/

namespace Patterns

/-- The second operator holds just where the first one does not. -/
def Negates (ps : Patterns) (d : Document) (path : String) (op no : Operator) (bound : Bson) :
    Prop :=
  ∃ b, ps.clauseHoldsAt (d.lookup path) op bound = .ok b ∧
    ps.clauseHoldsAt (d.lookup path) no bound = .ok (!b)

variable (ps : Patterns) (d : Document) (path : String) (bound : Bson)

theorem negates_eq : ps.Negates d path .eq .ne bound := by
  unfold Negates
  cases d.lookup path with
  | none => exact ⟨false, rfl, rfl⟩
  | some value => exact ⟨value.equalsAny bound, rfl, rfl⟩

theorem negates_isIn : ps.Negates d path .isIn .notIn bound := by
  unfold Negates
  cases d.lookup path with
  | none => exact ⟨false, rfl, rfl⟩
  | some value => exact ⟨value.isAnyOf bound, rfl, rfl⟩

theorem clauseHoldsAt_isIn_iff {d : Document} (hd : (Bson.document d).Unique) {listed : List Bson}
    (hlisted : ∀ v ∈ listed, v.Unique) :
    ps.clauseHoldsAt (d.lookup path) .isIn (.array listed) = .ok true ↔
      ∃ v ∈ listed, ps.clauseHoldsAt (d.lookup path) .eq v = .ok true := by
  cases hvalue : d.lookup path with
  | none => simp [clauseHoldsAt]
  | some value =>
    simp [clauseHoldsAt, clauseHolds, Bson.isAnyOf_array (hd.lookup hvalue) hlisted]

end Patterns

namespace Memory

/-- Of each document in a collection, one of two criteria finds it and the other does not; neither
finds a value that is not a document. -/
def Parts (m : Memory) (collection : String) (c no : Criterion) : Prop :=
  ∃ p : Bson → Bool,
    m.find collection (Query.empty.withCriterion c) =
      .ok ((m.documents collection).filter fun value => value.asDocument?.isSome && p value) ∧
    m.find collection (Query.empty.withCriterion no) =
      .ok ((m.documents collection).filter fun value => value.asDocument?.isSome && !p value)

theorem parts_of_negates {op no : Operator} (hop : op ≠ .regex) (hno : no ≠ .regex) {field : String}
    {bound : Bson} (h : ∀ d, Patterns.empty.Negates d field op no bound) (m : Memory)
    (collection : String) :
    m.Parts collection (.single field op bound) (.single field no bound) := by
  refine ⟨fun value => value.asDocument?.any (Criterion.single field op bound).holds, ?_, ?_⟩
  · rw [find_single hop]
    refine congrArg _ (List.filter_congr fun value _ => ?_)
    cases hd : value.asDocument? <;> simp [hd]
  · rw [find_single hno]
    refine congrArg _ (List.filter_congr fun value _ => ?_)
    cases hd : value.asDocument? with
    | none => rfl
    | some d =>
      obtain ⟨b, hb, hb'⟩ := h d
      simp [hd, Criterion.holds_single hop, Criterion.holds_single hno, hb, hb', Except.toOption]

end Memory

/-- `ne` holds just where `eq` does not, `nin` just where `in` does not, and `in` just where `eq`
holds for one of the listed values, be there a value at the path or not.  So the documents of a
collection fall into those that an equality or a membership finds and those that its negation
finds. -/
theorem negation_and_membership (path : String) :
    (∀ (ps : Patterns) (d : Document) (v list : Bson),
      ps.Negates d path .eq .ne v ∧ ps.Negates d path .isIn .notIn list) ∧
    (∀ (ps : Patterns) (d : Document) (listed : List Bson), (Bson.document d).Unique →
      (∀ v ∈ listed, v.Unique) →
        (ps.clauseHoldsAt (d.lookup path) .isIn (.array listed) = .ok true ↔
          ∃ v ∈ listed, ps.clauseHoldsAt (d.lookup path) .eq v = .ok true)) ∧
    ∀ (m : Memory) (collection : String) (v : Bson) (listed : List Bson),
      m.Parts collection (Where.eq path v) (Where.ne path v) ∧
      m.Parts collection (Where.anyOf path listed) (Where.noneOf path listed) := by
  refine ⟨fun ps d v list => ⟨ps.negates_eq d path v, ps.negates_isIn d path list⟩,
    fun ps d listed hd hlisted => ps.clauseHoldsAt_isIn_iff path hd hlisted,
    fun m collection v listed => ⟨?_, ?_⟩⟩
  · exact Memory.parts_of_negates (by decide) (by decide)
      (fun d => Patterns.empty.negates_eq d path v) m collection
  · exact Memory.parts_of_negates (by decide) (by decide)
      (fun d => Patterns.empty.negates_isIn d path (.array listed)) m collection

/-- A room with tags: a text, a document and a NaN. -/
def taggedRoom : Document :=
  [("floor", .int32 3),
    ("tags", .array [.string "quiet",
      .document [("beds", .int32 2), ("view", .string "sea")],
      .double (.quietNaN _ false)])]

theorem negation_and_membership_taggedRoom :
    let listed := [Bson.document [("view", .string "sea"), ("beds", .int64 2)]]
    let lone := [Bson.double (.quietNaN _ false)]
    (Bson.document taggedRoom).Unique ∧ (∀ v ∈ listed, v.Unique) ∧ (∀ v ∈ lone, v.Unique) ∧
    Patterns.empty.clauseHoldsAt (taggedRoom.lookup "tags") .isIn (.array listed) = .ok true ∧
    ¬ Patterns.empty.clauseHoldsAt (taggedRoom.lookup "tags") .isIn (.array lone) = .ok true ∧
    ¬ Patterns.empty.clauseHoldsAt (taggedRoom.lookup "area") .isIn (.array listed) = .ok true := by
  intro listed lone
  have hroom : (Bson.document taggedRoom).Unique := by
    simp [taggedRoom, Bson.Unique, Bson.UniqueItems, Bson.UniqueFields]
  have hlisted : ∀ v ∈ listed, v.Unique := by
    simp [listed, Bson.Unique, Bson.UniqueFields]
  have hlone : ∀ v ∈ lone, v.Unique := by
    simp [lone, Bson.Unique]
  have htags := (negation_and_membership "tags").2.1 Patterns.empty taggedRoom
  have harea := (negation_and_membership "area").2.1 Patterns.empty taggedRoom
  refine ⟨hroom, hlisted, hlone, ?_, ?_, ?_⟩
  · refine (htags listed hroom hlisted).mpr ⟨_, List.mem_cons_self, ?_⟩
    rfl
  · rw [htags lone hroom hlone]
    decide +kernel
  · rw [harea listed hroom hlisted]
    decide +kernel

end Sift
