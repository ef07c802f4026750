import Mathlib.Order.Compare
import Sift.Bson.Compare

/-!
# The order of values

Two values that change places change sides (`compare?_swap`).  Values of one kind are ordered by
what they hold, so what does not come after what does not come after a value does not come after it
either (`NotAfter.trans_of_kind`).  Of values of several kinds this does not hold, since a value of
another kind comes neither before nor after.
-/

namespace Sift

namespace Binary

theorem compare?_swap {f : Format} (x y : Binary f) :
    (x.compare? y).map Ordering.swap = y.compare? x := by
  unfold compare?
  cases x.isNaN <;> cases y.isNaN <;> simp [← Std.OrientedCmp.eq_swap]

end Binary

namespace Bson

theorem compareBinary_swap (s t : BinarySubtype) (a b : List UInt8) :
    (compareBinary s t a b).swap = compareBinary t s b a := by
  simp [compareBinary, Ordering.swap_then, ← Std.OrientedCmp.eq_swap]

theorem compare?_swap (x y : Bson) : (x.compare? y).map Ordering.swap = y.compare? x := by
  cases x <;> cases y <;>
    simp [compare?, asInt?, asDouble?, compareBinary_swap, Binary.compare?_swap,
      ← Std.OrientedCmp.eq_swap]

theorem compare?_eq_gt_iff {x y : Bson} : x.compare? y = some .gt ↔ y.compare? x = some .lt := by
  rw [← compare?_swap x y]
  cases x.compare? y with
  | none => simp
  | some o => cases o <;> simp

/-! ## Values of one kind -/

/-- The kinds of values that are ordered among themselves. -/
inductive OrderedKind where
  | boolean
  | integer
  | double
  | datetime
  | string
  | binary

/-- The values of a kind.  An integer may have any width, and a NaN is of no kind. -/
inductive OfKind : OrderedKind → Bson → Prop where
  | boolean (value : Bool) : OfKind .boolean (.boolean value)
  | int32 (value : Int32) : OfKind .integer (.int32 value)
  | int64 (value : Int64) : OfKind .integer (.int64 value)
  | double (value : Double) (h : value.isNaN = false) : OfKind .double (.double value)
  | datetime (millis : Int64) : OfKind .datetime (.datetime millis)
  | string (text : String) : OfKind .string (.string text)
  | binary (subtype : BinarySubtype) (bytes : List UInt8) : OfKind .binary (.binary subtype bytes)

/-! ## Values that do not come after others -/

/-- The value does not come strictly after the other one. -/
def NotAfter (x y : Bson) : Prop := x.compare? y ≠ some .gt

instance (x y : Bson) : Decidable (NotAfter x y) := inferInstanceAs (Decidable (_ ≠ _))

theorem notAfter_iff_isLE {x y : Bson} {o : Ordering} (h : x.compare? y = some o) :
    x.NotAfter y ↔ o.isLE = true := by
  rw [NotAfter, h]
  cases o <;> decide

/-- Values that are ordered as what they hold. -/
theorem NotAfter.trans_of_cmp {α : Type} (cmp : α → α → Ordering) [Std.TransCmp cmp] {x y z : Bson}
    {a b c : α} (hxy : x.compare? y = some (cmp a b)) (hyz : y.compare? z = some (cmp b c))
    (hxz : x.compare? z = some (cmp a c)) (h : x.NotAfter y) (h' : y.NotAfter z) :
    x.NotAfter z := by
  rw [notAfter_iff_isLE hxy] at h
  rw [notAfter_iff_isLE hyz] at h'
  exact (notAfter_iff_isLE hxz).mpr (Std.TransCmp.isLE_trans h h')

/-- The order of binary values as one of pairs: by length, then the byte of the subtype, then
bytes. -/
def comparePair : UInt8 × List UInt8 → UInt8 × List UInt8 → Ordering :=
  compareLex (compareOn fun v => v.2.length)
    (compareLex (compareOn Prod.fst) (compareOn Prod.snd))

instance : Std.TransCmp comparePair := inferInstanceAs (Std.TransCmp (compareLex _ _))

theorem compare?_double {a b : Double} (ha : a.isNaN = false) (hb : b.isNaN = false) :
    (double a).compare? (double b) = some (compare a.rank b.rank) := by
  show a.compare? b = _
  rw [Binary.compare?, ha, hb]
  rfl

theorem NotAfter.trans_of_kind {kind : OrderedKind} {x y z : Bson} (hx : OfKind kind x)
    (hy : OfKind kind y) (hz : OfKind kind z) (h : x.NotAfter y) (h' : y.NotAfter z) :
    x.NotAfter z := by
  cases hx with
  | boolean a =>
    obtain ⟨b⟩ := hy
    obtain ⟨c⟩ := hz
    exact h.trans_of_cmp compare rfl rfl rfl h'
  | int32 a | int64 a =>
    rcases hy with ⟨b⟩ | ⟨b⟩ <;> rcases hz with ⟨c⟩ | ⟨c⟩ <;>
      exact h.trans_of_cmp compare rfl rfl rfl h'
  | double a ha =>
    cases hy with
    | double b hb =>
      cases hz with
      | double c hc =>
        exact h.trans_of_cmp compare (compare?_double ha hb) (compare?_double hb hc)
          (compare?_double ha hc) h'
  | datetime a =>
    obtain ⟨b⟩ := hy
    obtain ⟨c⟩ := hz
    exact h.trans_of_cmp compare rfl rfl rfl h'
  | string a =>
    obtain ⟨b⟩ := hy
    obtain ⟨c⟩ := hz
    exact h.trans_of_cmp compare rfl rfl rfl h'
  | binary s a =>
    cases hy with
    | binary t b =>
      cases hz with
      | binary u c =>
        exact h.trans_of_cmp comparePair (a := (s.toByte, a)) (b := (t.toByte, b))
          (c := (u.toByte, c)) rfl rfl rfl h'

/-- What does not come after a value does not come after what the value does not come after. -/
def Consistent (values : List Bson) : Prop :=
  ∀ x ∈ values, ∀ y ∈ values, ∀ z ∈ values, NotAfter x y → NotAfter y z → NotAfter x z

theorem consistent_of_kind {kind : OrderedKind} {values : List Bson}
    (h : ∀ v ∈ values, OfKind kind v) : Consistent values := fun x hx y hy z hz hxy hyz =>
  hxy.trans_of_kind (h x hx) (h y hy) (h z hz) hyz

end Bson
end Sift
