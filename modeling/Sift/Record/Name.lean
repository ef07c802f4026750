import Sift.Schema

/-!
The record types of a hotel by name, and their schemas.
-/

namespace Sift

inductive RecordName where
  | address
  | guest
  | booking
  | employee
  /-- One field of each kind. -/
  | everything
  deriving DecidableEq, Repr

namespace RecordName

def addressSchema : Schema RecordName :=
  .ofFields "Address" [("city", .scalar .string)]

def guestSchema : Schema RecordName :=
  .ofFields "Guest" [("email", .scalar .string), ("address", .declared address)]

def bookingSchema : Schema RecordName :=
  .ofFields "Booking"
    [("id", .scalar .uuid), ("name", .scalar .string), ("room", .scalar .int32),
     ("status", .scalar .string), ("checkIn", .scalar .timestamp), ("guest", .declared guest)]

/-- Employees are filtered as staff. -/
def employeeSchema : Schema RecordName :=
  .ofFields "Staff"
    [("id", .scalar .uuid), ("name", .scalar .string), ("level", .scalar .int64),
     ("rating", .scalar .double), ("manager", .declared employee)]

def everythingSchema : Schema RecordName :=
  .ofFields "Everything"
    [("A-STRING", .scalar .string), ("AN-I32", .scalar .int32), ("AN-I64", .scalar .int64),
     ("AN-F32", .scalar .float), ("AN-F64", .scalar .double), ("A-BOOL", .scalar .boolean),
     ("A-DATE", .scalar .timestamp), ("A-UUID", .scalar .uuid), ("OPT-I32", .scalar .int32),
     ("BOXED-OPT", .scalar .boolean), ("A-VEC", .unsupported "array"),
     ("OPT-VEC", .unsupported "array"), ("A-HASH-MAP", .unsupported "map"),
     ("A-TREE-MAP", .unsupported "map"), ("A-DOC", .unsupported "document"),
     ("A-BSON", .unsupported "bson"), ("NESTED", .declared guest),
     ("OPT-NESTED", .declared employee), ("plain", .scalar .string)]

/-- The schema of a record type. -/
def schema : RecordName → Schema RecordName
  | address => addressSchema
  | guest => guestSchema
  | booking => bookingSchema
  | employee => employeeSchema
  | everything => everythingSchema

instance : Catalog RecordName := ⟨schema⟩

/-- The record type that is spelled like this. -/
def ofName? : String → Option RecordName
  | "Address" => some address
  | "Guest" => some guest
  | "Booking" => some booking
  | "Employee" => some employee
  | "Everything" => some everything
  | _ => none

end RecordName
end Sift
