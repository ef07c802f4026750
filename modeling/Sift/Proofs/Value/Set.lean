import Mathlib.Data.Finset.Card
import Sift.Proofs.Bson.Same
import Sift.Proofs.Number.Text
import Sift.Proofs.Value.Seen

/-!
# Sets of typed values

A value set built by insertions lists the different values of what came, in the order in which they
first came.  Membership and equality of sets look at its hash set only, and what they answer is said
of the list, since the two are in step.  `ValueSet.ofList_firstSeen` puts this together with what
equality of values is.
-/

namespace Sift

/-! ## Equality of values -/

namespace Binary

theorem toBits_zero_ne (f : Format) : (zero f false).toBits ≠ (zero f true).toBits := by
  intro h
  cases toBits_injective h

theorem same_zero (f : Format) : (zero f false).same (zero f true) = true := by
  refine same_iff.mpr ⟨isNaN_zero f false, isNaN_zero f true, ?_⟩
  simp [rank, zero]

end Binary

namespace ValueSet

/-! ## Sets built by insertions -/

theorem mem_values_ofList {vs : List TypedValue} {v : TypedValue} :
    v ∈ (ofList vs).values ↔ v ∈ vs := by
  rw [values_ofList, List.mem_eraseDups]

theorem contains_ofList {vs : List TypedValue} {v : TypedValue} :
    (ofList vs).contains v = true ↔ v ∈ vs := by
  rw [contains, (lists_ofList vs).contains_iff, mem_values_ofList]

/-- One more insertion makes the set of one more value, and says whether that is a new one. -/
theorem insert_ofList (vs : List TypedValue) (v : TypedValue) :
    (ofList vs).insert v = (decide (v ∉ vs), ofList (vs ++ [v])) := by
  have hnew : ((ofList vs).insert v).1 = decide (v ∉ vs) := by
    rw [insert_eq, ((lists_ofList vs).insert v).1]
    simp only [mem_values_ofList]
  rw [← hnew, ofList_concat]

theorem size_ofList (vs : List TypedValue) : (ofList vs).size = vs.toFinset.card := by
  have hnodup : (ofList vs).values.Nodup := (lists_ofList vs).nodup
  have hmembers : (ofList vs).values.toFinset = vs.toFinset := by
    ext v
    rw [List.mem_toFinset, List.mem_toFinset, mem_values_ofList]
  rw [size, ← List.toFinset_card_of_nodup hnodup, hmembers]

/-- A set built by insertions lists the different values of what came, in the order in which they
first came.  An insertion says whether the value is a new one.  A set contains the values that are
equal to one that it lists, and two sets are the same if each contains what the other lists, in
whatever order and however often the values came.  Values are equal if they have one type and one
content, which is the bits of a floating point number: a NaN is equal to itself, and the two zeros
are different, although as numbers they are equal and a NaN is not.  Equal values feed a hasher the
same, and the hash set of a value set has what the set lists, each value once. -/
theorem ofList_firstSeen (vs : List TypedValue) :
    (∀ v, v ∈ (ofList vs).values ↔ v ∈ vs) ∧
    (ofList vs).values.Pairwise (fun v w => vs.idxOf v < vs.idxOf w) ∧
    (∀ v, (((ofList vs).insert v).1 = true ↔ ∀ w ∈ vs, (w == v) = false) ∧
      ((ofList vs).insert v).2 = ofList (vs ++ [v])) ∧
    (∀ v, (ofList vs).contains v = true ↔ ∃ w ∈ (ofList vs).values, (v == w) = true) ∧
    (ofList vs).size = vs.toFinset.card ∧
    (∀ ws, (ofList vs).same (ofList ws) = true ↔
      (∀ v ∈ (ofList vs).values, (ofList ws).contains v = true) ∧
        ∀ w ∈ (ofList ws).values, (ofList vs).contains w = true) ∧
    (∀ v w : TypedValue, (v == w) = true ↔ v.Identical w) ∧
    (∀ v w : TypedValue, (v == w) = true → v.scalarType = w.scalarType) ∧
    (∀ v w : TypedValue, (v == w) = true → fed v = fed w) ∧
    (ofList vs).seen.keys.Perm (ofList vs).values ∧
    (∀ x : Single, x.isNaN = true →
      x.same x = false ∧ (TypedValue.float x == .float x) = true) ∧
    (∀ x : Double, x.isNaN = true →
      x.same x = false ∧ (TypedValue.double x == .double x) = true) ∧
    ((Binary.zero .single false).same (.zero .single true) = true ∧
      (TypedValue.float (.zero _ false) == .float (.zero _ true)) = false) ∧
    (Binary.zero .double false).same (.zero .double true) = true ∧
      (TypedValue.double (.zero _ false) == .double (.zero _ true)) = false := by
  have hsame_self : ∀ {f : Format} {x : Binary f}, x.isNaN = true → x.same x = false :=
    fun h => by rw [← Bool.not_eq_true, Binary.same_self_iff, h]; simp
  refine ⟨fun _ => mem_values_ofList, ?_, fun v => ?_, fun v => ?_, size_ofList vs, fun ws => ?_,
    fun _ _ => TypedValue.equal_iff_identical,
    fun _ _ h => (TypedValue.equal_iff_identical.mp h).scalarType,
    fun _ _ h => LawfulFeeds.fed_eq h, (lists_ofList vs).perm_keys,
    fun x h => ⟨hsame_self h, beq_self_eq_true _⟩, fun x h => ⟨hsame_self h, beq_self_eq_true _⟩,
    ⟨Binary.same_zero _, ?_⟩, Binary.same_zero _, ?_⟩
  · rw [values_ofList]
    exact pairwise_idxOf_eraseDups vs
  · rw [insert_ofList]
    refine ⟨?_, rfl⟩
    simp only [decide_eq_true_eq, beq_eq_false_iff_ne]
    exact ⟨fun h w hw e => h (e ▸ hw), fun h hv => h v hv rfl⟩
  · simp [contains_ofList, mem_values_ofList]
  · rw [same, (lists_ofList vs).same_iff (lists_ofList ws)]
    simp only [contains_ofList, mem_values_ofList]
    exact ⟨fun h => ⟨fun v => (h v).mp, fun v => (h v).mpr⟩, fun h v => ⟨h.1 v, h.2 v⟩⟩
  · rw [← Bool.not_eq_true, TypedValue.equal_iff_identical]
    intro h
    cases h with
    | float hbits => exact Binary.toBits_zero_ne _ hbits
  · rw [← Bool.not_eq_true, TypedValue.equal_iff_identical]
    intro h
    cases h with
    | double hbits => exact Binary.toBits_zero_ne _ hbits

/-- A NaN and zeros of several types, some of them twice. -/
def zerosAndNaN : List TypedValue :=
  [.double (.quietNaN _ false), .double (.zero _ true), .int32 0, .double (.quietNaN _ false),
    .double (.zero _ false), .int64 0, .double (.zero _ true)]

theorem ofList_firstSeen_zerosAndNaN :
    (ofList zerosAndNaN).values = [.double (.quietNaN _ false), .double (.zero _ true), .int32 0,
      .double (.zero _ false), .int64 0] ∧
    (∀ w ∈ zerosAndNaN, (w == .float (.zero _ false)) = false) ∧
    ((ofList zerosAndNaN).insert (.float (.zero _ false))).1 = true ∧
    ((ofList zerosAndNaN).insert (.int64 0)).1 = false ∧
    (ofList zerosAndNaN).size = 5 ∧
    (ofList zerosAndNaN).same (ofList zerosAndNaN.reverse) = true ∧
    (Binary.quietNaN .double false).isNaN = true ∧
    (Binary.quietNaN .double false).same (.quietNaN .double false) = false := by
  obtain ⟨-, -, hinsert, -, hsize, hsame, -, -, -, -, -, hnan, -⟩ := ofList_firstSeen zerosAndNaN
  have hnew : ∀ w ∈ zerosAndNaN, (w == .float (.zero _ false)) = false := by decide
  have hisNaN : (Binary.quietNaN .double false).isNaN = true := by decide
  refine ⟨by decide, hnew, (hinsert _).1.mpr hnew, ?_, hsize, ?_, hisNaN, (hnan _ hisNaN).1⟩
  · rw [← Bool.not_eq_true, (hinsert _).1]
    exact fun h => absurd (h (.int64 0) (by decide)) (by decide)
  · exact (hsame _).mpr ⟨by decide, by decide⟩

end ValueSet
end Sift
