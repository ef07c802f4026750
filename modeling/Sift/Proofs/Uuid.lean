import Sift.Proofs.Text.Split
import Sift.Uuid

/-!
# Identifiers in text

The canonical text of an identifier reads back as the identifier (`read?_text`): it has the length
of the grouped form, the hyphens cut it into its groups, and each pair of digits is a byte.
-/

namespace Sift
namespace Uuid

/-- The digits of bytes in a row. -/
def digits (bytes : List UInt8) : List Char := bytes.flatMap Text.hexByte

theorem length_digits (bytes : List UInt8) : (digits bytes).length = 2 * bytes.length := by
  induction bytes with
  | nil => rfl
  | cons b bytes ih =>
    rw [digits, List.flatMap_cons, List.length_append, ← digits, ih, List.length_cons]
    show 2 + 2 * bytes.length = _
    omega

theorem not_mem_digits (bytes : List UInt8) : '-' ∉ digits bytes := by
  have hchar : ∀ n < 16, Nat.digitChar n ≠ '-' := by decide
  intro hmem
  obtain ⟨b, _, hb⟩ := List.mem_flatMap.mp hmem
  have hlt := b.toNat_lt
  rcases List.mem_cons.mp hb with h | h
  · exact hchar _ (by omega) h.symm
  · exact hchar _ (by omega) (List.mem_singleton.mp h).symm

theorem readBytes_digits (bytes : List UInt8) : readBytes (digits bytes) = some bytes := by
  have hdigit : ∀ n < 16, Text.hexDigit? (Nat.digitChar n) = some n := by decide
  induction bytes with
  | nil => rfl
  | cons b bytes ih =>
    have hlt := b.toNat_lt
    have hsplit : 16 * (b.toNat / 16) + b.toNat % 16 = b.toNat := Nat.div_add_mod _ _
    rw [digits, List.flatMap_cons, ← digits, Text.hexByte]
    simp only [List.cons_append, List.nil_append, readBytes, hdigit (b.toNat / 16) (by omega),
      hdigit (b.toNat % 16) (by omega), ih, Option.bind_eq_bind, Option.bind_some, hsplit,
      UInt8.ofNat_toNat]
    rfl

theorem ungroup_groups {a b c d e : List Char} (hfree : ∀ g ∈ [a, b, c, d, e], '-' ∉ g)
    (hlengths : [a, b, c, d, e].map List.length = [8, 4, 4, 4, 12]) :
    ungroup (['-'].intercalate [a, b, c, d, e]) = some (a ++ b ++ c ++ d ++ e) := by
  rw [ungroup, List.splitOn_intercalate '-' hfree (List.cons_ne_nil _ _)]
  simp only [hlengths, if_true]

/-- The characters from a place on, as many as given. -/
def slice (cs : List Char) (first size : Nat) : List Char := (cs.drop first).take size

theorem slice_append (cs : List Char) (first size more : Nat) :
    slice cs first size ++ slice cs (first + size) more = slice cs first (size + more) := by
  rw [slice, slice, slice, List.take_add, List.drop_drop]

theorem mem_of_mem_slice {cs : List Char} {first size : Nat} {c : Char}
    (h : c ∈ slice cs first size) : c ∈ cs :=
  List.mem_of_mem_drop (List.mem_of_mem_take h)

theorem read?_text (u : Uuid) : read? u.text = some u := by
  have hlength : (digits u.bytes).length = 32 := by rw [length_digits, u.length_bytes]
  have hread := readBytes_digits u.bytes
  have hfree := not_mem_digits u.bytes
  have htext : u.text.toList = ['-'].intercalate [slice (digits u.bytes) 0 8,
      slice (digits u.bytes) 8 4, slice (digits u.bytes) 12 4, slice (digits u.bytes) 16 4,
      slice (digits u.bytes) 20 12] := by
    simp [text, slice, digits, List.intercalate, List.intersperse]
  generalize digits u.bytes = ds at hlength hread hfree htext
  have hslice : ∀ first size, first + size ≤ 32 → (slice ds first size).length = size := by
    intro first size h
    simp only [slice, List.length_take, List.length_drop, hlength]
    omega
  have hungroup : ungroup u.text.toList = some ds := by
    have hall : slice ds 0 32 = ds := List.take_of_length_le (Nat.le_of_eq hlength)
    rw [htext, ungroup_groups, slice_append ds 0 8 4, slice_append ds 0 12 4,
      slice_append ds 0 16 4, slice_append ds 0 20 12, hall]
    · simp only [List.mem_cons, List.not_mem_nil, or_false]
      rintro g (rfl | rfl | rfl | rfl | rfl) <;> exact fun h => hfree (mem_of_mem_slice h)
    · simp [hslice]
  have hlong : u.text.toList.length = 36 := by
    simp [htext, List.intercalate, List.intersperse, hslice]
  have hdigits : digits? u.text = some ds := by
    simp [digits?, hlong, hungroup]
  simp [read?, hdigits, hread, ofBytes?, u.length_bytes]

end Uuid
end Sift
