import Mathlib.Logic.Function.Basic
import Sift.Proofs.FirstSeen
import Sift.Proofs.Hash
import Sift.Value.Set

/-!
# The two halves of a value set

Typed values are equal if they have one type and one content, and the content of a floating point
number is its bit pattern (`TypedValue.equal_iff_identical`).  Equal values feed a hasher the same,
so a value set finds in its hash set what it lists, and lists what it finds there
(`ValueSet.lists_ofList`), whatever was inserted and how often.
-/

namespace Sift

namespace Binary

variable {f : Format}

theorem toBits_injective : Function.Injective (toBits (f := f)) := by
  rintro ⟨negative, m⟩ ⟨negative', m'⟩ h
  have hm := m.isLt
  have hm' := m'.isLt
  simp only [toBits] at h
  -- both magnitudes are below the sign bit
  have hsign : negative = negative' := by
    cases negative <;> cases negative' <;> simp at h ⊢ <;> omega
  subst hsign
  have hval : m.val = m'.val := Nat.add_left_cancel h
  rw [Fin.ext hval]

end Binary

namespace TypedValue

/-! ## Equality of values -/

/-- The values have one type and one content.  Floating point numbers have one content if they have
the same bits. -/
inductive Identical : TypedValue → TypedValue → Prop where
  | string (text : String) : Identical (.string text) (.string text)
  | int32 (value : Int32) : Identical (.int32 value) (.int32 value)
  | int64 (value : Int64) : Identical (.int64 value) (.int64 value)
  | float {x y : Single} (h : x.toBits = y.toBits) : Identical (.float x) (.float y)
  | double {x y : Double} (h : x.toBits = y.toBits) : Identical (.double x) (.double y)
  | boolean (value : Bool) : Identical (.boolean value) (.boolean value)
  | timestamp (value : Timestamp) : Identical (.timestamp value) (.timestamp value)
  | uuid (value : Uuid) : Identical (.uuid value) (.uuid value)

variable {v w : TypedValue}

theorem equal_iff_identical : (v == w) = true ↔ v.Identical w := by
  show equal v w = true ↔ _
  constructor
  · intro h
    unfold equal at h
    split at h
    · exact eq_of_beq h ▸ .string _
    · exact eq_of_beq h ▸ .int32 _
    · exact eq_of_beq h ▸ .int64 _
    · exact .float (eq_of_beq h)
    · exact .double (eq_of_beq h)
    · exact eq_of_beq h ▸ .boolean _
    · exact eq_of_beq h ▸ .timestamp _
    · exact eq_of_beq h ▸ .uuid _
    · cases h
  · intro h
    cases h with
    | float h => exact beq_iff_eq.mpr h
    | double h => exact beq_iff_eq.mpr h
    | _ => exact beq_self_eq_true _

theorem Identical.eq (h : v.Identical w) : v = w := by
  cases h with
  | float h => rw [Binary.toBits_injective h]
  | double h => rw [Binary.toBits_injective h]
  | _ => rfl

theorem Identical.refl (v : TypedValue) : v.Identical v := by
  cases v with
  | string text => exact .string text
  | int32 value => exact .int32 value
  | int64 value => exact .int64 value
  | float value => exact .float rfl
  | double value => exact .double rfl
  | boolean value => exact .boolean value
  | timestamp value => exact .timestamp value
  | uuid value => exact .uuid value

theorem Identical.scalarType (h : v.Identical w) : v.scalarType = w.scalarType := by
  cases h <;> rfl

theorem Identical.fed (h : v.Identical w) : fed v = fed w := by
  cases h with
  | float h => simp only [Feeds.fed, contentFed, h]; rfl
  | double h => simp only [Feeds.fed, contentFed, h]; rfl
  | _ => rfl

instance : LawfulBEq TypedValue where
  eq_of_beq h := (equal_iff_identical.mp h).eq
  rfl := equal_iff_identical.mpr (.refl _)

instance : LawfulFeeds TypedValue := ⟨fun h => (equal_iff_identical.mp h).fed⟩

end TypedValue

namespace ValueSet

/-! ## What is listed and what is found -/

theorem insert_eq (s : ValueSet) (v : TypedValue) :
    s.insert v = ((s.seen.insert v).1,
      ⟨if (s.seen.insert v).1 then s.values ++ [v] else s.values, (s.seen.insert v).2⟩) := rfl

/-- An insertion that finds the two halves in step leaves them in step. -/
theorem lists_insert {s : ValueSet} (h : s.seen.Lists s.values) (v : TypedValue) :
    (s.insert v).2.seen.Lists (s.insert v).2.values := by
  obtain ⟨hnew, hlists⟩ := h.insert v
  rw [insert_eq, hnew]
  by_cases hv : v ∈ s.values
  · simpa [hv] using hlists
  · simpa [hv] using hlists

theorem ofList_concat (vs : List TypedValue) (v : TypedValue) :
    ofList (vs ++ [v]) = ((ofList vs).insert v).2 := by
  simp [ofList]

theorem lists_ofList (vs : List TypedValue) : (ofList vs).seen.Lists (ofList vs).values := by
  induction vs using List.reverseRecOn with
  | nil => exact .empty
  | append_singleton vs v ih =>
    rw [ofList_concat]
    exact lists_insert ih v

/-- A set lists the different members of what it was built from, in first-seen order. -/
theorem values_ofList (vs : List TypedValue) : (ofList vs).values = vs.eraseDups := by
  induction vs using List.reverseRecOn with
  | nil => rfl
  | append_singleton vs v ih =>
    have hnew := ((lists_ofList vs).insert v).1
    have hmem : v ∈ (ofList vs).values ↔ v ∈ vs := by rw [ih, List.mem_eraseDups]
    rw [ofList_concat, insert_eq, hnew, eraseDups_concat, ih]
    by_cases hv : v ∈ vs <;> simp [hv]

end ValueSet
end Sift
