import Mathlib.Data.List.Forall2
import Mathlib.Data.List.Perm.Subperm
import Sift.Bson.Compare
import Sift.Bson.Path

/-!
# Equality of values

Values are compared part by part, so what holds of `same` is proved along the parts of a value
(`induction_parts`).  Where no document has a key twice, equality is symmetric (`same_comm`) and the
values that are equal to themselves are those without a NaN (`same_self_iff`).

Equality is not transitive, since an integer is rounded before it is compared with a double.  That is
all (`rounded_of_not_same`): where three values fail, one of them holds a double that is equal to two
different integers in the others.
-/

namespace Sift

namespace Binary

variable {f : Format} {x y z : Binary f}

theorem same_iff : x.same y = true ↔ x.isNaN = false ∧ y.isNaN = false ∧ x.rank = y.rank := by
  simp [same, and_assoc]

theorem same_comm (x y : Binary f) : x.same y = y.same x := by
  rw [Bool.eq_iff_iff, same_iff, same_iff]
  constructor
  · rintro ⟨hx, hy, hrank⟩
    exact ⟨hy, hx, hrank.symm⟩
  · rintro ⟨hy, hx, hrank⟩
    exact ⟨hx, hy, hrank.symm⟩

theorem same_trans (hxy : x.same y = true) (hyz : y.same z = true) : x.same z = true := by
  obtain ⟨hx, -, hxy⟩ := same_iff.mp hxy
  obtain ⟨-, hz, hyz⟩ := same_iff.mp hyz
  exact same_iff.mpr ⟨hx, hz, hxy.trans hyz⟩

theorem same_self_iff : x.same x = true ↔ x.isNaN = false := by
  simp [same_iff]

theorem isNaN_ofInt (f : Format) (z : Int) : (ofInt f z).isNaN = false := by
  have hle : f.round (z.natAbs * Nat.pow 2 f.scale) 1 ≤ f.infinity := Nat.min_le_right _ _
  exact decide_eq_false (Nat.not_lt.mpr hle)

end Binary

namespace Document

theorem mem_of_get? {d : Document} {key : String} {value : Bson} (h : d.get? key = some value) :
    (key, value) ∈ d := by
  obtain ⟨⟨_, _⟩, hfield, rfl⟩ := Option.map_eq_some_iff.mp h
  obtain ⟨hmem, rfl⟩ := Keyed.mem_of_get? Prod.fst hfield
  exact hmem

theorem get?_of_mem {d : Document} (h : (d.map Prod.fst).Nodup) {field : String × Bson}
    (hfield : field ∈ d) : d.get? field.1 = some field.2 := by
  rw [get?, Keyed.get?_of_mem Prod.fst h hfield, Option.map_some]

end Document

namespace Bson

/-! ## The parts of a value -/

/-- The value holds no other values. -/
def isLeaf : Bson → Bool
  | array _ => false
  | document _ => false
  | _ => true

mutual

/-- The values within a value that hold no others, at any depth. -/
def leaves : Bson → List Bson
  | array items => leavesOfItems items
  | document fields => leavesOfFields fields
  | v => [v]

def leavesOfItems : List Bson → List Bson
  | [] => []
  | item :: items => leaves item ++ leavesOfItems items

def leavesOfFields : List (String × Bson) → List Bson
  | [] => []
  | (_, value) :: fields => leaves value ++ leavesOfFields fields

end

/-- The value holds no NaN. -/
def NaNFree (v : Bson) : Prop := ∀ x, double x ∈ v.leaves → x.isNaN = false

theorem leaves_array (items : List Bson) : (array items).leaves = items.flatMap leaves := by
  have key : leavesOfItems items = items.flatMap leaves := by
    induction items with
    | nil => rfl
    | cons item items ih => simp [leavesOfItems, ih]
  rw [leaves, key]

theorem leaves_document (fields : List (String × Bson)) :
    (document fields).leaves = fields.flatMap fun field => field.2.leaves := by
  have key : leavesOfFields fields = fields.flatMap fun field => field.2.leaves := by
    induction fields with
    | nil => rfl
    | cons field fields ih => simp [leavesOfFields, ih]
  rw [leaves, key]

theorem leaves_of_isLeaf {v : Bson} (h : v.isLeaf = true) : v.leaves = [v] := by
  cases v <;> first | rfl | cases h

theorem nanFree_array_iff {items : List Bson} :
    (array items).NaNFree ↔ ∀ item ∈ items, item.NaNFree := by
  simp only [NaNFree, leaves_array, List.mem_flatMap]
  constructor
  · intro h item hitem x hx
    exact h x ⟨item, hitem, hx⟩
  · rintro h x ⟨item, hitem, hx⟩
    exact h item hitem x hx

theorem nanFree_document_iff {fields : List (String × Bson)} :
    (document fields).NaNFree ↔ ∀ field ∈ fields, field.2.NaNFree := by
  simp only [NaNFree, leaves_document, List.mem_flatMap]
  constructor
  · intro h field hfield x hx
    exact h x ⟨field, hfield, hx⟩
  · rintro h x ⟨field, hfield, hx⟩
    exact h field hfield x hx

theorem unique_array_iff {items : List Bson} :
    (array items).Unique ↔ ∀ item ∈ items, item.Unique := by
  have key : UniqueItems items ↔ ∀ item ∈ items, item.Unique := by
    induction items with
    | nil => simp [UniqueItems]
    | cons item items ih => simp [UniqueItems, ih]
  rw [Unique, key]

theorem unique_document_iff {fields : List (String × Bson)} :
    (document fields).Unique ↔
      (fields.map Prod.fst).Nodup ∧ ∀ field ∈ fields, field.2.Unique := by
  have key : UniqueFields fields ↔ ∀ field ∈ fields, field.2.Unique := by
    induction fields with
    | nil => simp [UniqueFields]
    | cons field fields ih => simp [UniqueFields, ih]
  rw [Unique, key]

/-- What holds of a value if it holds of its parts, and of all leaves, holds of every value. -/
@[elab_as_elim]
theorem induction_parts {motive : Bson → Prop}
    (array : ∀ items, (∀ item ∈ items, motive item) → motive (.array items))
    (document : ∀ fields : List (String × Bson), (∀ field ∈ fields, motive field.2) →
      motive (.document fields))
    (leaf : ∀ v : Bson, v.isLeaf = true → motive v) (v : Bson) : motive v := by
  match hv : v with
  | .array items => exact array items fun item hitem => induction_parts array document leaf item
  | .document fields =>
    exact document fields fun field hfield => induction_parts array document leaf field.2
  | .null | .boolean _ | .int32 _ | .int64 _ | .double _ | .datetime _ | .string _ | .binary _ _
  | .objectId _ | .timestamp _ _ | .symbol _ | .code _ | .undefined | .minKey | .maxKey =>
    exact leaf _ rfl
termination_by sizeOf v
decreasing_by
  · have := List.sizeOf_lt_of_mem hitem
    simp
    omega
  · have := List.sizeOf_lt_of_mem hfield
    obtain ⟨key, value⟩ := field
    simp at this ⊢
    omega

/-! ## Equality along the parts -/

theorem same_array_iff {items : List Bson} {y : Bson} :
    (array items).same y = true ↔
      ∃ others, y = array others ∧ List.Forall₂ (fun a b => a.same b = true) items others := by
  have key : ∀ others, sameItems items others = true ↔
      List.Forall₂ (fun a b => a.same b = true) items others := by
    intro others
    induction items generalizing others with
    | nil => cases others <;> simp [sameItems]
    | cons item items ih => cases others <;> simp [sameItems, ih]
  cases y <;> simp [same, key]

theorem same_document_iff {fields : List (String × Bson)} {y : Bson} :
    (document fields).same y = true ↔
      ∃ others : Document, y = document others ∧ fields.length = others.length ∧
        ∀ field ∈ fields, ∃ b, others.get? field.1 = some b ∧ field.2.same b = true := by
  have key : ∀ others : Document, sameFields fields others = true ↔
      ∀ field ∈ fields, ∃ b, others.get? field.1 = some b ∧ field.2.same b = true := by
    intro others
    induction fields with
    | nil => simp [sameFields]
    | cons field fields ih =>
      cases hget : others.get? field.1 <;> simp [sameFields, hget, ih]
  cases y <;> simp [same, key]

/-- Equality of two numbers: exact for two integers, and of the doubles otherwise. -/
def sameNumber (x y : Bson) : Bool :=
  match x.asInt?, y.asInt? with
  | some i, some j => i == j
  | _, _ =>
    match x.asDouble?, y.asDouble? with
    | some a, some b => a.same b
    | _, _ => false

theorem sameNumber_comm (x y : Bson) : x.sameNumber y = y.sameNumber x := by
  unfold sameNumber
  cases x.asInt? <;> cases y.asInt? <;> cases x.asDouble? <;> cases y.asDouble? <;>
    simp [Binary.same_comm, Bool.beq_comm]

theorem asDouble?_of_asInt? {v : Bson} {i : Int} (h : v.asInt? = some i) :
    v.asDouble? = some (.ofInt _ i) := by
  cases v with
  | int32 _ | int64 _ => rw [← Option.some.inj h, asDouble?]
  | _ => cases h

theorem exists_asDouble?_of_sameNumber {x y : Bson} (h : x.sameNumber y = true) :
    ∃ b, y.asDouble? = some b := by
  unfold sameNumber at h
  split at h
  · rename_i hy
    exact ⟨_, asDouble?_of_asInt? hy⟩
  · split at h
    · rename_i hy
      exact ⟨_, hy⟩
    · cases h

/-- A number is compared as a number. -/
theorem same_of_number {x : Bson} {a : Double} (h : x.asDouble? = some a) (y : Bson) :
    x.same y = x.sameNumber y := by
  cases x with
  | int32 _ | int64 _ | double _ =>
    cases y <;> simp [same, sameNumber, asInt?, asDouble?, Binary.same_comm]
  | _ => cases h

/-- Any other leaf is equal to itself only. -/
theorem same_iff_eq_of_leaf {x : Bson} (hleaf : x.isLeaf = true) (h : x.asDouble? = none)
    {y : Bson} : x.same y = true ↔ x = y := by
  cases x with
  | array _ | document _ => cases hleaf
  | int32 _ | int64 _ | double _ => cases h
  | _ => cases y <;> simp [same]

/-! ## Symmetry -/

theorem same_symm {x y : Bson} (hx : x.Unique) (hy : y.Unique) (h : x.same y = true) :
    y.same x = true := by
  induction x using induction_parts generalizing y with
  | array items ih =>
    obtain ⟨others, rfl, hall⟩ := same_array_iff.mp h
    rw [unique_array_iff] at hx hy
    refine same_array_iff.mpr ⟨items, rfl, ?_⟩
    clear h
    induction hall with
    | nil => exact .nil
    | @cons a b items others hab _ ihrest =>
      rw [List.forall_mem_cons] at ih hx hy
      exact .cons (ih.1 hx.1 hy.1 hab) (ihrest ih.2 hx.2 hy.2)
  | document fields ih =>
    obtain ⟨others, rfl, hlen, hall⟩ := same_document_iff.mp h
    rw [unique_document_iff] at hx hy
    -- the keys of the first are keys of the second, and as many, so they are the same keys
    have hsub : fields.map Prod.fst ⊆ others.map Prod.fst := by
      intro key hkey
      obtain ⟨field, hfield, rfl⟩ := List.mem_map.mp hkey
      obtain ⟨b, hb, -⟩ := hall field hfield
      exact List.mem_map.mpr ⟨_, Document.mem_of_get? hb, rfl⟩
    have hkeys : (others.map Prod.fst).length = (fields.map Prod.fst).length := by
      rw [List.length_map, List.length_map, hlen]
    have hperm : (fields.map Prod.fst).Perm (others.map Prod.fst) :=
      (List.subperm_of_subset hx.1 hsub).perm_of_length_le (Nat.le_of_eq hkeys)
    refine same_document_iff.mpr ⟨fields, rfl, hlen.symm, fun other hother => ?_⟩
    obtain ⟨field, hfield, hkey⟩ := List.mem_map.mp (hperm.mem_iff.mpr (List.mem_map_of_mem hother))
    obtain ⟨b, hb, hsame⟩ := hall field hfield
    have hvalue : b = other.2 := by
      rw [hkey, Document.get?_of_mem hy.1 hother] at hb
      exact (Option.some.inj hb).symm
    rw [hvalue] at hsame
    refine ⟨field.2, ?_, ih field hfield (hx.2 field hfield) (hy.2 other hother) hsame⟩
    rw [← hkey]
    exact Document.get?_of_mem hx.1 hfield
  | leaf x hleaf =>
    cases hnumber : x.asDouble? with
    | none =>
      have hxy : x = y := (same_iff_eq_of_leaf hleaf hnumber).mp h
      rw [hxy] at h ⊢
      exact h
    | some a =>
      rw [same_of_number hnumber] at h
      obtain ⟨b, hb⟩ := exists_asDouble?_of_sameNumber h
      rwa [same_of_number hb, sameNumber_comm]

/-- Where no document has a key twice, equality does not depend on which value comes first. -/
theorem same_comm {x y : Bson} (hx : x.Unique) (hy : y.Unique) : x.same y = y.same x :=
  Bool.eq_iff_iff.mpr ⟨same_symm hx hy, same_symm hy hx⟩

/-! ## Equality of a value with itself -/

theorem nanFree_iff_of_leaf {x : Bson} (h : x.isLeaf = true) :
    x.NaNFree ↔ ∀ d, double d = x → d.isNaN = false := by
  simp only [NaNFree, leaves_of_isLeaf h, List.mem_singleton]

theorem sameNumber_self {x : Bson} (hleaf : x.isLeaf = true) {a : Double}
    (h : x.asDouble? = some a) : x.sameNumber x = true ↔ x.NaNFree := by
  rw [nanFree_iff_of_leaf hleaf]
  cases x with
  | int32 _ | int64 _ => simp [sameNumber, asInt?]
  | double d => simp [sameNumber, asInt?, asDouble?, Binary.same_self_iff]
  | _ => cases h

theorem same_self_iff {x : Bson} (hx : x.Unique) : x.same x = true ↔ x.NaNFree := by
  induction x using induction_parts with
  | array items ih =>
    rw [unique_array_iff] at hx
    rw [same_array_iff, nanFree_array_iff]
    simp only [array.injEq, exists_eq_left', List.forall₂_same]
    exact forall₂_congr fun item hitem => ih item hitem (hx item hitem)
  | document fields ih =>
    rw [unique_document_iff] at hx
    rw [same_document_iff, nanFree_document_iff]
    simp only [document.injEq, exists_eq_left', true_and]
    refine forall₂_congr fun field hfield => ?_
    rw [← ih field hfield (hx.2 field hfield)]
    simp [Document.get?_of_mem hx.1 hfield]
  | leaf x hleaf =>
    cases hnumber : x.asDouble? with
    | none =>
      rw [same_iff_eq_of_leaf hleaf hnumber, nanFree_iff_of_leaf hleaf]
      refine iff_of_true rfl fun d hd => ?_
      rw [← hd] at hnumber
      cases hnumber
    | some a => rw [same_of_number hnumber, sameNumber_self hleaf hnumber]

/-! ## Chains of equal values -/

theorem isLeaf_of_same {x y : Bson} (hx : x.isLeaf = true) (h : x.same y = true) :
    y.isLeaf = true := by
  cases hnumber : x.asDouble? with
  | none =>
    rw [← (same_iff_eq_of_leaf hx hnumber).mp h]
    exact hx
  | some a =>
    rw [same_of_number hnumber] at h
    obtain ⟨b, hb⟩ := exists_asDouble?_of_sameNumber h
    cases y <;> first | rfl | cases hb

theorem isLeaf_of_mem_leaves {u v : Bson} (h : u ∈ v.leaves) : u.isLeaf = true := by
  induction v using induction_parts with
  | array items ih =>
    rw [leaves_array] at h
    obtain ⟨item, hitem, hu⟩ := List.mem_flatMap.mp h
    exact ih item hitem hu
  | document fields ih =>
    rw [leaves_document] at h
    obtain ⟨field, hfield, hu⟩ := List.mem_flatMap.mp h
    exact ih field hfield hu
  | leaf v hleaf =>
    rw [leaves_of_isLeaf hleaf, List.mem_singleton] at h
    rw [h]
    exact hleaf

/-- Equality carries over a chain of three values if it does for the leaves in them. -/
theorem same_trans {x y z : Bson}
    (hleaves : ∀ u ∈ x.leaves, ∀ v ∈ y.leaves, ∀ w ∈ z.leaves,
      u.same v = true → v.same w = true → u.same w = true)
    (hxy : x.same y = true) (hyz : y.same z = true) : x.same z = true := by
  induction x using induction_parts generalizing y z with
  | array items ih =>
    obtain ⟨others, rfl, hall⟩ := same_array_iff.mp hxy
    obtain ⟨lasts, rfl, hall'⟩ := same_array_iff.mp hyz
    refine same_array_iff.mpr ⟨lasts, rfl, ?_⟩
    clear hxy hyz
    simp only [leaves_array] at hleaves
    induction hall generalizing lasts with
    | nil =>
      cases hall'
      exact .nil
    | @cons a b items others hab _ ihrest =>
      cases hall' with
      | @cons _ c _ lasts hbc hrest' =>
        rw [List.forall_mem_cons] at ih
        simp only [List.flatMap_cons, List.mem_append] at hleaves
        refine .cons (ih.1 (fun u hu v hv w hw => ?_) hab hbc)
          (ihrest ih.2 lasts hrest' fun u hu v hv w hw => ?_)
        · exact hleaves u (.inl hu) v (.inl hv) w (.inl hw)
        · exact hleaves u (.inr hu) v (.inr hv) w (.inr hw)
  | document fields ih =>
    obtain ⟨others, rfl, hlen, hall⟩ := same_document_iff.mp hxy
    obtain ⟨lasts, rfl, hlen', hall'⟩ := same_document_iff.mp hyz
    refine same_document_iff.mpr ⟨lasts, rfl, hlen.trans hlen', fun field hfield => ?_⟩
    obtain ⟨b, hb, hab⟩ := hall field hfield
    have hother := Document.mem_of_get? hb
    obtain ⟨c, hc, hbc⟩ := hall' _ hother
    have hlast := Document.mem_of_get? hc
    refine ⟨c, hc, ih field hfield (fun u hu v hv w hw => ?_) hab hbc⟩
    simp only [leaves_document, List.mem_flatMap] at hleaves
    exact hleaves u ⟨field, hfield, hu⟩ v ⟨_, hother, hv⟩ w ⟨_, hlast, hw⟩
  | leaf x hleaf =>
    have hy := isLeaf_of_same hleaf hxy
    have hz := isLeaf_of_same hy hyz
    simp only [leaves_of_isLeaf hleaf, leaves_of_isLeaf hy, leaves_of_isLeaf hz, List.mem_singleton,
      forall_eq] at hleaves
    exact hleaves hxy hyz

theorem same_of_sameNumber {x y : Bson} {a b : Double} (hx : x.asDouble? = some a)
    (hy : y.asDouble? = some b) (h : x.sameNumber y = true) : a.same b = true := by
  unfold sameNumber at h
  split at h
  · rename_i i j hi hj
    rw [asDouble?_of_asInt? hi] at hx
    rw [asDouble?_of_asInt? hj, ← eq_of_beq h, hx] at hy
    rw [← Option.some.inj hy, ← Option.some.inj hx]
    exact Binary.same_self_iff.mpr (Binary.isNaN_ofInt _ i)
  · simpa [hx, hy] using h

/-- Three leaves fail to carry equality over only where a double is equal to two integers. -/
theorem exists_clash {u v w : Bson} (hu : u.isLeaf = true) (huv : u.same v = true)
    (hvw : v.same w = true) (hne : ¬ u.same w = true) :
    ∃ d i j, v = double d ∧ u.asInt? = some i ∧ w.asInt? = some j ∧ i ≠ j := by
  cases ha : u.asDouble? with
  | none =>
    rw [(same_iff_eq_of_leaf hu ha).mp huv] at hne
    exact absurd hvw hne
  | some a =>
    rw [same_of_number ha] at huv hne
    obtain ⟨b, hb⟩ := exists_asDouble?_of_sameNumber huv
    rw [same_of_number hb] at hvw
    obtain ⟨c, hc⟩ := exists_asDouble?_of_sameNumber hvw
    -- the doubles of all three are equal, so the outer two differ as integers
    have hac : a.same c = true :=
      Binary.same_trans (same_of_sameNumber ha hb huv) (same_of_sameNumber hb hc hvw)
    cases hi : u.asInt? with
    | none => simp [sameNumber, hi, ha, hc, hac] at hne
    | some i =>
      cases hj : w.asInt? with
      | none => simp [sameNumber, hi, hj, ha, hc, hac] at hne
      | some j =>
        have hij : i ≠ j := by simpa [sameNumber, hi, hj] using hne
        cases hk : v.asInt? with
        | some k =>
          have hik : i = k := by simpa [sameNumber, hi, hk] using huv
          have hkj : k = j := by simpa [sameNumber, hk, hj] using hvw
          exact absurd (hik.trans hkj) hij
        | none =>
          cases v with
          | double d => exact ⟨d, i, j, rfl, rfl, rfl, hij⟩
          | int32 _ | int64 _ => cases hk
          | _ => cases hb

/-- A double in the second value is equal to an integer in the first and to another in the third. -/
def Rounded (x y z : Bson) : Prop :=
  ∃ u ∈ x.leaves, ∃ d, double d ∈ y.leaves ∧ ∃ w ∈ z.leaves,
    u.same (double d) = true ∧ (double d).same w = true ∧
      ∃ i j, u.asInt? = some i ∧ w.asInt? = some j ∧ i ≠ j

theorem rounded_of_not_same {x y z : Bson} (hxy : x.same y = true) (hyz : y.same z = true)
    (hxz : ¬ x.same z = true) : Rounded x y z := by
  by_contra hnone
  refine hxz (same_trans (fun u hu v hv w hw huv hvw => ?_) hxy hyz)
  by_contra huw
  obtain ⟨d, i, j, rfl, hi, hj, hij⟩ := exists_clash (isLeaf_of_mem_leaves hu) huv hvw huw
  exact hnone ⟨u, hu, d, hv, w, hw, huv, hvw, i, j, hi, hj, hij⟩

/-! ## Parts of documents -/

theorem Unique.descend {d : Document} (h : (document d).Unique) {path : List String} {v : Bson}
    (hv : d.descend path = some v) : v.Unique := by
  induction path generalizing d with
  | nil => cases hv
  | cons key path ih =>
    have hvalue : ∀ {value}, d.get? key = some value → value.Unique := fun hget =>
      (unique_document_iff.mp h).2 _ (Document.mem_of_get? hget)
    cases path with
    | nil => exact hvalue hv
    | cons next path =>
      unfold Document.descend at hv
      split at hv
      · rename_i fields hget
        exact ih (hvalue hget) hv
      · cases hv

theorem Unique.lookup {d : Document} (h : (document d).Unique) {path : String} {v : Bson}
    (hv : d.lookup path = some v) : v.Unique :=
  h.descend hv

end Bson
end Sift
