import Sift.Record.Booking
import Sift.Record.Employee

/-!
# Records are read back from what they are stored as

Each kind of simple part is read back from its stored form, and a record from the parts it is stored
with.  `Record.ReadsBack` says so of a type of records, and that none of them fails to be written:
`Booking.readsBack` for bookings with their nested records, and `Employee.readsBack` for employees
with managers to any depth.
-/

namespace Sift
namespace Record

/-- Every record is written, and is read back from what it is written as. -/
structure ReadsBack {ι : Type} (α : Type) [Record ι α] (written : α → Bson) : Prop where
  toBson_eq (r : α) : toBson r = .ok (written r)
  ofBson_written (r : α) : ofBson (written r) = .ok r

/-! ## Parts -/

theorem text?_string (text : String) : text? (.string text) = some text := rfl

theorem datetime?_datetime (millis : Int64) : datetime? (.datetime millis) = some millis := rfl

theorem double?_double (x : Double) : double? (.double x) = some x := rfl

theorem uuid?_uuid (u : Uuid) : uuid? (.uuid u) = some u := by
  simp [uuid?, Bson.uuid, Uuid.ofBytes?, u.length_bytes]

theorem int32?_int32 (n : Int32) : int32? (.int32 n) = some n := by
  have hlow : -2147483648 ≤ n.toInt := n.minValue_le_toInt
  have hhigh : n.toInt < 2147483648 := n.toInt_lt
  have hbound : ((Nat.pow 2 (32 - 1) : Nat) : Int) = 2147483648 := rfl
  simp only [int32?, integer?, Bson.readInteger?, Option.filter, hbound, hlow, hhigh, and_self,
    decide_true, if_true, Option.map_some, Int32.ofInt_toInt]

theorem int64?_int64 (n : Int64) : int64? (.int64 n) = some n := by
  have hlow : -9223372036854775808 ≤ n.toInt := n.minValue_le_toInt
  have hhigh : n.toInt < 9223372036854775808 := n.toInt_lt
  have hbound : ((Nat.pow 2 (64 - 1) : Nat) : Int) = 9223372036854775808 := rfl
  simp only [int64?, integer?, Bson.readInteger?, Option.filter, hbound, hlow, hhigh, and_self,
    decide_true, if_true, Option.map_some, Int64.ofInt_toInt]

section

variable {β : Type} {v w : Bson} {name : String} {place : Nat} {read : Bson → Option β}

theorem required_of_part {b : β} (hpart : part? v name place = some w) (hread : read w = some b) :
    required v name place read = .ok b := by
  simp [required, hpart, hread]

/-- A part that may be missing is stored as null where it is. -/
theorem optional_of_elim {write : β → Bson} {part : Option β}
    (hpart : part? v name place = some (part.elim .null write))
    (hread : ∀ b, read (write b) = some b) (hnull : ∀ b, write b ≠ .null) :
    optional v name place read = .ok part := by
  cases part with
  | none => simp [optional, hpart]
  | some b =>
    have hwrite := hnull b
    have hback := hread b
    simp only [optional, hpart, Option.elim_some]
    cases hw : write b <;> simp_all

end
end Record

/-! ## Bookings -/

theorem Address.ofBson_toBson (a : Address) : Address.ofBson a.toBson = .ok a := rfl

theorem Guest.ofBson_toBson (g : Guest) : Guest.ofBson g.toBson = .ok g := by
  have hform : Record.checkForm 2 g.toBson = .ok () := rfl
  have hemail : Record.required g.toBson "email" 0 Record.text? = .ok g.email :=
    Record.required_of_part rfl (Record.text?_string g.email)
  have haddress : Record.required g.toBson "address" 1 some = .ok g.address.toBson :=
    Record.required_of_part rfl rfl
  unfold Guest.ofBson
  rw [hform, hemail, haddress]
  simp only [bind, Except.bind, pure, Except.pure, Address.ofBson_toBson]

namespace Booking

theorem ofBson_toBson (b : Booking) : Booking.ofBson b.toBson = .ok b := by
  have hform : Record.checkForm 7 b.toBson = .ok () := rfl
  have hid : Record.required b.toBson "id" 0 Record.uuid? = .ok b.id :=
    Record.required_of_part rfl (Record.uuid?_uuid b.id)
  have hname : Record.required b.toBson "name" 1 Record.text? = .ok b.name :=
    Record.required_of_part rfl (Record.text?_string b.name)
  have hroom : Record.required b.toBson "room" 2 Record.int32? = .ok b.room :=
    Record.required_of_part rfl (Record.int32?_int32 b.room)
  have hstatus : Record.required b.toBson "status" 3 Record.text? = .ok b.status :=
    Record.required_of_part rfl (Record.text?_string b.status)
  have hcheckIn : Record.required b.toBson "checkIn" 4 Record.datetime? = .ok b.checkIn :=
    Record.required_of_part rfl (Record.datetime?_datetime b.checkIn)
  have hguest : Record.required b.toBson "guest" 5 some = .ok b.guest.toBson :=
    Record.required_of_part rfl rfl
  have hnotes : Record.optional b.toBson "notes" 6 Record.text? = .ok b.notes :=
    Record.optional_of_elim rfl Record.text?_string fun _ => by simp
  unfold Booking.ofBson
  rw [hform, hid, hname, hroom, hstatus, hcheckIn, hguest, hnotes]
  simp only [bind, Except.bind, pure, Except.pure, Guest.ofBson_toBson]

theorem readsBack : Record.ReadsBack Booking toBson := ⟨fun _ => rfl, ofBson_toBson⟩

end Booking

/-! ## Employees -/

namespace Employee

theorem toBson_eq (e : Employee) :
    e.toBson = .document [("id", .uuid e.id), ("name", .string e.name),
      ("level", e.level.elim .null .int64), ("rating", e.rating.elim .null .double),
      ("manager", e.manager.elim .null toBson)] := by
  obtain ⟨id, name, level, rating, manager⟩ := e
  cases manager <;> simp [toBson]

/-- An employee is read back once the manager is, if there is one. -/
theorem ofBson_toBson_of_manager {e : Employee}
    (h : ∀ m, e.manager = some m → Employee.ofBson m.toBson = .ok m) :
    Employee.ofBson e.toBson = .ok e := by
  have hdocument := toBson_eq e
  generalize e.toBson = v at hdocument
  subst hdocument
  rw [Employee.ofBson, Record.required_of_part rfl (Record.uuid?_uuid e.id),
    Record.required_of_part rfl (Record.text?_string e.name),
    Record.optional_of_elim rfl Record.int64?_int64 (fun _ => by simp),
    Record.optional_of_elim rfl Record.double?_double (fun _ => by simp)]
  obtain ⟨id, name, level, rating, manager⟩ := e
  cases manager with
  | none => rfl
  | some m =>
    have hread := h m rfl
    have hm := toBson_eq m
    simp only [Record.checkForm, bind, Except.bind, pure, Except.pure]
    split
    · rename_i hpart
      cases hpart
    · rename_i hpart
      have hnull := (Option.some.inj hpart).symm.trans hm
      cases hnull
    · rename_i w hnot hpart
      have hw : m.toBson = w := Option.some.inj hpart
      rw [← hw, hread]
      rfl

theorem ofBson_toBson : ∀ e : Employee, Employee.ofBson e.toBson = .ok e
  | ⟨id, name, level, rating, none⟩ => ofBson_toBson_of_manager fun _ h => by cases h
  | ⟨id, name, level, rating, some m⟩ =>
    ofBson_toBson_of_manager fun _ h => Option.some.inj h ▸ ofBson_toBson m

theorem readsBack : Record.ReadsBack Employee toBson := ⟨fun _ => rfl, ofBson_toBson⟩

end Employee
end Sift
