import Sift.Bson.Extended
import Sift.Error

/-!
Reading the parts of a record from a stored value.

A record is stored as a document with a field for each part; a list of the parts in their order
is read as well.
-/

namespace Sift
namespace Record

/-- The value has the form of a record with `n` parts. -/
def checkForm (n : Nat) : Bson → Except StoreError Unit
  | .document _ => .ok ()
  | .array items => if n ≤ items.length then .ok () else .error (.serialization "too few parts")
  | _ => .error (.serialization "not a record")

/-- What is stored for the part with a name and a place in the order. -/
def part? (v : Bson) (name : String) (place : Nat) : Option Bson :=
  match v with
  | .document fields => Document.get? fields name
  | .array items => items[place]?
  | _ => none

/-- A part is smaller than the record, so reading records within records ends. -/
theorem sizeOf_part_lt {v w : Bson} {name : String} {place : Nat}
    (h : part? v name place = some w) : sizeOf w < sizeOf v := by
  cases v with
  | document fields =>
    simp only [part?, Document.get?, Keyed.get?, Option.map_eq_some_iff] at h
    obtain ⟨⟨key, value⟩, hf, rfl⟩ := h
    have hm := List.sizeOf_lt_of_mem (List.mem_of_find?_eq_some hf)
    simp only [Prod.mk.sizeOf_spec] at hm
    simp only [Bson.document.sizeOf_spec]
    omega
  | array items =>
    have hm := List.sizeOf_lt_of_mem (List.mem_of_getElem? h)
    simp only [Bson.array.sizeOf_spec]
    omega
  | _ => simp [part?] at h

/-- A part that has to be there. -/
def required {α : Type} (v : Bson) (name : String) (place : Nat)
    (read : Bson → Option α) : Except StoreError α :=
  match part? v name place with
  | none => .error (.serialization s!"missing field {name}")
  | some w =>
    match read w with
    | some a => .ok a
    | none => .error (.serialization s!"invalid field {name}")

/-- A part that may be missing or null. -/
def optional {α : Type} (v : Bson) (name : String) (place : Nat)
    (read : Bson → Option α) : Except StoreError (Option α) :=
  match part? v name place with
  | none | some .null => .ok none
  | some w =>
    match read w with
    | some a => .ok (some a)
    | none => .error (.serialization s!"invalid field {name}")

/-! ## Simple parts -/

/-- An integer of either width that lies in the range of `width` bits. -/
def integer? (width : Nat) (v : Bson) : Option Int :=
  let bound : Int := Nat.pow 2 (width - 1)
  v.readInteger?.filter fun n => -bound ≤ n ∧ n < bound

def int32? (v : Bson) : Option Int32 := (integer? 32 v).map .ofInt

def int64? (v : Bson) : Option Int64 := (integer? 64 v).map .ofInt

/-- A number; an integer is rounded to the nearest double. -/
def double? : Bson → Option Double
  | .double x => some x
  | v => v.readInteger?.map (.ofInt _)

def text? : Bson → Option String := Bson.readText?

/-- An identifier: its bytes, its text, or a document that stands for bytes.  The bytes of such a
document may have no kind of their own. -/
def uuid? : Bson → Option Uuid
  | .binary subtype bytes => if subtype = .uuid then Uuid.ofBytes? bytes else none
  | .string text => Uuid.read? text
  | .document fields =>
    match (Bson.document fields).ofExtended? with
    | some (.binary subtype bytes) =>
      if subtype = .uuid ∨ subtype = .generic then Uuid.ofBytes? bytes else none
    | _ => none
  | _ => none

/-- A point in time, or a document that stands for one. -/
def datetime? (v : Bson) : Option Int64 :=
  match v.ofExtended? with
  | some (.datetime millis) => some millis
  | _ => none

end Record
end Sift
