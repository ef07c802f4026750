import Sift.Bson.ToJson
import Sift.Record
import Sift.Record.Name
import Sift.Record.Part

/-!
Bookings of a hotel, with the guest and the address written into them.
-/

namespace Sift

structure Address where
  city : String
  deriving DecidableEq

structure Guest where
  email : String
  address : Address
  deriving DecidableEq

structure Booking where
  id : Uuid
  name : String
  room : Int32
  status : String
  /-- The time of arrival in milliseconds. -/
  checkIn : Int64
  guest : Guest
  /-- Remarks, which are stored but not filtered on. -/
  notes : Option String
  deriving DecidableEq

namespace Address

def toBson (a : Address) : Bson := .document [("city", .string a.city)]

def ofBson (v : Bson) : Except StoreError Address := do
  Record.checkForm 1 v
  return ⟨← Record.required v "city" 0 Record.text?⟩

def toJson (a : Address) : Json := .object [("city", .string a.city)]

end Address

namespace Guest

def toBson (g : Guest) : Bson :=
  .document [("email", .string g.email), ("address", g.address.toBson)]

def ofBson (v : Bson) : Except StoreError Guest := do
  Record.checkForm 2 v
  let email ← Record.required v "email" 0 Record.text?
  let address ← Record.required v "address" 1 some
  return ⟨email, ← Address.ofBson address⟩

def toJson (g : Guest) : Json :=
  .object [("email", .string g.email), ("address", g.address.toJson)]

end Guest

namespace Booking

/-- Missing notes are stored as null. -/
def toBson (b : Booking) : Bson :=
  .document
    [("id", .uuid b.id), ("name", .string b.name), ("room", .int32 b.room),
     ("status", .string b.status), ("checkIn", .datetime b.checkIn), ("guest", b.guest.toBson),
     ("notes", b.notes.elim .null .string)]

def ofBson (v : Bson) : Except StoreError Booking := do
  Record.checkForm 7 v
  let id ← Record.required v "id" 0 Record.uuid?
  let name ← Record.required v "name" 1 Record.text?
  let room ← Record.required v "room" 2 Record.int32?
  let status ← Record.required v "status" 3 Record.text?
  let checkIn ← Record.required v "checkIn" 4 Record.datetime?
  let guest ← Guest.ofBson (← Record.required v "guest" 5 some)
  let notes ← Record.optional v "notes" 6 Record.text?
  return { id, name, room, status, checkIn, guest, notes }

def toJson (b : Booking) : Json :=
  .object
    [("id", .string b.id.text), ("name", .string b.name), ("room", .integer b.room.toInt),
     ("status", .string b.status), ("checkIn", Bson.datetimeJson b.checkIn),
     ("guest", b.guest.toJson), ("notes", b.notes.elim .null .string)]

instance : Record RecordName Booking where
  collection := "bookings"
  schema := RecordName.bookingSchema
  id := Booking.id
  toBson r := .ok r.toBson
  ofBson := ofBson
  toJson := toJson

end Booking
end Sift
