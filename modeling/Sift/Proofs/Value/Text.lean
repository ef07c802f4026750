import Sift.Proofs.Filter.Typed
import Sift.Proofs.Number.Integer
import Sift.Proofs.Number.Text
import Sift.Proofs.Time.Text
import Sift.Proofs.Uuid

/-!
# Values and their text

The text of a value that was read reads back as the value, but for two kinds of values that the text
does not show in full (`TypedValue.Shown`): the sign of a NaN is not written, and a year with more
than four digits is written in a form that is not read (`coerce_text_iff`).
-/

namespace Sift

namespace TypedValue

/-- What holds of a value that was read: a NaN is a quiet one, and a time is one of whole
milliseconds. -/
def Read : TypedValue → Prop
  | float x => x.isNaN = true → x = .quietNaN _ x.negative
  | double x => x.isNaN = true → x = .quietNaN _ x.negative
  | timestamp t => t.WellFormed ∧ t.nanos % 1000000 = 0
  | _ => True

/-- The text shows all of the value: a NaN is positive, and a year has four digits. -/
def Shown : TypedValue → Prop
  | float x => x.isNaN = true → x.negative = false
  | double x => x.isNaN = true → x.negative = false
  | timestamp t => 0 ≤ t.year ∧ t.year ≤ 9999
  | _ => True

instance (v : TypedValue) : Decidable v.Shown := by
  cases v <;> unfold Shown <;> infer_instance

end TypedValue

namespace ScalarType

theorem isRead_of_read {type : ScalarType} {text : String} {v : TypedValue}
    (h : type.read text = .ok v) : v.Read := by
  cases type with
  | float =>
    obtain ⟨x, hx, rfl⟩ := map_eq_ok_iff.mp h
    exact Binary.quietNaN_of_read (mapError_eq_ok_iff.mp hx)
  | double =>
    obtain ⟨x, hx, rfl⟩ := map_eq_ok_iff.mp h
    exact Binary.quietNaN_of_read (mapError_eq_ok_iff.mp hx)
  | timestamp =>
    obtain ⟨t, ht, rfl⟩ := map_eq_ok_iff.mp h
    unfold readTimestamp at ht
    split at ht
    · cases ht
    · rename_i hread
      split at ht
      · rename_i hmillis
        rw [← Except.ok.inj ht]
        exact ⟨Timestamp.wellFormed_of_read? hread, hmillis⟩
      · cases ht
  | string => exact Except.ok.inj h ▸ trivial
  | uuid =>
    simp only [read] at h
    split at h
    · exact Except.ok.inj h ▸ trivial
    · cases h
  | int32 | int64 | boolean =>
    obtain ⟨_, _, rfl⟩ := map_eq_ok_iff.mp h
    trivial

/-! ## Values that the text shows -/

theorem readTimestamp_text {t : Timestamp} (h : t.WellFormed) (hmillis : t.nanos % 1000000 = 0)
    (hyear : 0 ≤ t.year ∧ t.year ≤ 9999) : readTimestamp t.text = .ok t := by
  unfold readTimestamp
  rw [Timestamp.read?_text h hyear]
  exact if_pos hmillis

theorem read_text {v : TypedValue} (hread : v.Read) (h : v.Shown) :
    v.scalarType.read v.text = .ok v := by
  cases v with
  | string text => rfl
  | int32 n =>
    have hrange : Integer.InRange 32 n.toInt := ⟨n.le_toInt, n.toInt_lt⟩
    exact map_eq_ok_iff.mpr ⟨n.toInt, mapError_eq_ok_iff.mpr (Integer.read_toString hrange),
      congrArg _ n.ofInt_toInt⟩
  | int64 n =>
    have hrange : Integer.InRange 64 n.toInt := ⟨n.le_toInt, n.toInt_lt⟩
    exact map_eq_ok_iff.mpr ⟨n.toInt, mapError_eq_ok_iff.mpr (Integer.read_toString hrange),
      congrArg _ n.ofInt_toInt⟩
  | float x =>
    have hquiet : x.isNaN = true → x = .quietNaN _ false := fun hnan => h hnan ▸ hread hnan
    exact map_eq_ok_iff.mpr ⟨x, mapError_eq_ok_iff.mpr ((Binary.read_text_iff (.inl rfl)).mpr
      hquiet), rfl⟩
  | double x =>
    have hquiet : x.isNaN = true → x = .quietNaN _ false := fun hnan => h hnan ▸ hread hnan
    exact map_eq_ok_iff.mpr ⟨x, mapError_eq_ok_iff.mpr ((Binary.read_text_iff (.inr rfl)).mpr
      hquiet), rfl⟩
  | boolean b => cases b <;> rfl
  | timestamp t =>
    obtain ⟨hwell, hmillis⟩ := hread
    have hback : readTimestamp t.text = .ok t := readTimestamp_text hwell hmillis h
    simp only [TypedValue.scalarType, TypedValue.text, read, hback]
    rfl
  | uuid u => simp [TypedValue.scalarType, TypedValue.text, read, Uuid.read?_text]

/-! ## Values that it does not show -/

theorem read_text_of_not_shown {v : TypedValue} (h : ¬ v.Shown) :
    v.scalarType.read v.text = .error .notTimestamp ∨
    ∃ w : TypedValue, v.scalarType.read v.text = .ok w ∧ w.Shown ∧ w.text = v.text := by
  cases v with
  | float x | double x =>
    have hnan : x.isNaN = true := (Classical.not_imp.mp h).1
    refine .inr ⟨_, map_eq_ok_iff.mpr ⟨_, mapError_eq_ok_iff.mpr
      (Binary.read_text_of_isNaN hnan), rfl⟩, fun _ => rfl, ?_⟩
    simp only [TypedValue.text, Binary.text, if_pos hnan]
    rfl
  | timestamp t =>
    left
    simp only [TypedValue.scalarType, TypedValue.text, read, readTimestamp,
      Timestamp.read?_text_eq_none h]
    rfl
  | _ => exact absurd trivial h

/-- The text of a value that was read reads back as the value exactly if it shows the value.  Else
it is no text of a value, or that of another one, whose text is the same and reads back. -/
theorem coerce_text_iff {type : ScalarType} {text : String} {v : TypedValue}
    (h : type.coerce text = .ok v) :
    (type.coerce v.text = .ok v ↔ v.Shown) ∧
    (¬ v.Shown → type.coerce v.text = .error (.coercion v.text type .notTimestamp) ∨
      ∃ w : TypedValue, type.coerce v.text = .ok w ∧ w.Shown ∧ w.text = v.text) := by
  obtain rfl := scalarType_of_coerce h
  have hread := isRead_of_read (mapError_eq_ok_iff.mp h)
  refine ⟨⟨fun hback => ?_, fun hshown => mapError_eq_ok_iff.mpr (read_text hread hshown)⟩,
    fun hshown => ?_⟩
  · by_contra hshown
    rw [coerce, mapError_eq_ok_iff] at hback
    rcases read_text_of_not_shown hshown with herror | ⟨w, hw, hwshown, -⟩
    · rw [herror] at hback
      cases hback
    · rw [hw] at hback
      exact hshown (Except.ok.inj hback ▸ hwshown)
  · rcases read_text_of_not_shown hshown with herror | ⟨w, hw, hrest⟩
    · exact .inl (by rw [coerce, herror]; rfl)
    · exact .inr ⟨w, mapError_eq_ok_iff.mpr hw, hrest⟩

/-- Half a second into a leap second. -/
theorem coerce_text_iff_leapSecond :
    timestamp.coerce "2016-12-31T23:59:60.5Z" = .ok (.timestamp ⟨1483228799, 1500000000⟩) ∧
    timestamp.coerce (TypedValue.timestamp ⟨1483228799, 1500000000⟩).text =
      .ok (.timestamp ⟨1483228799, 1500000000⟩) := by
  have hread : timestamp.coerce "2016-12-31T23:59:60.5Z" =
      .ok (.timestamp ⟨1483228799, 1500000000⟩) := by decide +kernel
  exact ⟨hread, (coerce_text_iff hread).1.mpr (by decide)⟩

/-- A negative NaN is read, and its text is that of the positive one. -/
example : double.coerce "-nan" = .ok (.double (.quietNaN _ true)) ∧
    (TypedValue.double (.quietNaN _ true)).text = "NaN" ∧
    double.coerce "NaN" = .ok (.double (.quietNaN _ false)) := by
  decide +kernel

/-- The first second of the year 10000 is read, but its text is not. -/
theorem year_10000_not_read_back :
    ∃ v : TypedValue, timestamp.coerce "+10000-01-01T00:00:00" = .ok v ∧
      v.text = "+10000-01-01T00:00:00Z" ∧
      timestamp.coerce v.text = .error (.coercion v.text timestamp .notTimestamp) :=
  ⟨.timestamp ⟨253402300800, 0⟩, by decide +kernel⟩

end ScalarType
end Sift
