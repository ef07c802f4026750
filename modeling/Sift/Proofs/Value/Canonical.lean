import Sift.Proofs.Value.Text

/-!
# The text of a value as its key

However a value is spelled, it has one text, and two values of a type have the same text only if
they are the same value (`canonical_text`).  The two types of floating point numbers are left out,
since all NaNs share a text.  A timestamp in a year of more than four digits has a text of its own
too, but one that does not read back.
-/

namespace Sift
namespace ScalarType

variable {type : ScalarType} {text : String} {v w : TypedValue}

theorem exists_timestamp_of_coerce (h : timestamp.coerce text = .ok v) :
    ∃ t, v = .timestamp t ∧ t.WellFormed := by
  have hread := isRead_of_read (mapError_eq_ok_iff.mp h)
  have htype := scalarType_of_coerce h
  cases v with
  | timestamp t => exact ⟨t, rfl, hread.1⟩
  | _ => cases htype

theorem coerce_text_of_shown (h : type.coerce text = .ok v) (hshown : v.Shown) :
    type.coerce v.text = .ok v := by
  have hread := read_text (isRead_of_read (mapError_eq_ok_iff.mp h)) hshown
  rw [scalarType_of_coerce h] at hread
  exact mapError_eq_ok_iff.mpr hread

/-- Values of a type whose texts show all but a long year. -/
theorem shown_of_coerce (htype : type ≠ float ∧ type ≠ double) (h : type.coerce text = .ok v)
    (hyear : ∀ t, v = .timestamp t → 0 ≤ t.year ∧ t.year ≤ 9999) : v.Shown := by
  have hscalar := scalarType_of_coerce h
  cases v with
  | float => exact absurd hscalar.symm htype.1
  | double => exact absurd hscalar.symm htype.2
  | timestamp t => exact hyear t rfl
  | _ => trivial

/-- Two values of one type that were read are equal exactly if their texts are.  The text of such a
value reads back as the value, unless it is a timestamp in a year of more than four digits. -/
theorem canonical_text (htype : type ≠ float ∧ type ≠ double) {text' : String}
    (hv : type.coerce text = .ok v) (hw : type.coerce text' = .ok w) :
    (v = w ↔ v.text = w.text) ∧
    ((∀ t, v = .timestamp t → 0 ≤ t.year ∧ t.year ≤ 9999) →
      ∃ again, type.coerce v.text = .ok again ∧ again = v ∧ again.text = v.text) := by
  refine ⟨⟨fun h => h ▸ rfl, fun h => ?_⟩, fun hyear => ?_⟩
  · by_cases htime : type = timestamp
    · subst htime
      obtain ⟨t, rfl, ht⟩ := exists_timestamp_of_coerce hv
      obtain ⟨u, rfl, hu⟩ := exists_timestamp_of_coerce hw
      rw [Timestamp.text_injective ht hu h]
    · have hother : ∀ {text : String} {v : TypedValue}, type.coerce text = .ok v → v.Shown := by
        intro text v hread
        refine shown_of_coerce htype hread fun t hvalue => absurd ?_ htime
        rw [← scalarType_of_coerce hread, hvalue]
        rfl
      have hback := coerce_text_of_shown hv (hother hv)
      rw [h, coerce_text_of_shown hw (hother hw)] at hback
      exact (Except.ok.inj hback).symm
  · exact ⟨v, coerce_text_of_shown hv (shown_of_coerce htype hv hyear), rfl, rfl⟩

/-- A leap second, written with an offset that takes it into the next year, and the second before
it. -/
theorem canonical_text_leapSecond :
    let leap := TypedValue.timestamp ⟨1483228799, 1500000000⟩
    let before := TypedValue.timestamp ⟨1483228799, 500000000⟩
    timestamp.coerce "2017-01-01t05:29:60.500000+05:30" = .ok leap ∧
    timestamp.coerce "2016-12-31T23:59:59.5" = .ok before ∧
    leap.text = "2016-12-31T23:59:60.500Z" ∧ leap.text ≠ before.text ∧
    ∃ again, timestamp.coerce leap.text = .ok again ∧ again = leap ∧ again.text = leap.text := by
  intro leap before
  have hleap : timestamp.coerce "2017-01-01t05:29:60.500000+05:30" = .ok leap := by decide +kernel
  have hbefore : timestamp.coerce "2016-12-31T23:59:59.5" = .ok before := by decide +kernel
  obtain ⟨hiff, hback⟩ := canonical_text (by decide) hleap hbefore
  refine ⟨hleap, hbefore, by decide +kernel, fun h => absurd (hiff.mpr h) (by decide),
    hback fun t ht => ?_⟩
  rw [← TypedValue.timestamp.inj ht]
  decide +kernel

end ScalarType
end Sift
