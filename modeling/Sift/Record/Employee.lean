import Sift.Bson.ToJson
import Sift.Record
import Sift.Record.Name
import Sift.Record.Part

/-!
Employees of a hotel.  The manager of an employee is an employee and is written into the record.
-/

namespace Sift

structure Employee where
  id : Uuid
  name : String
  level : Option Int64
  rating : Option Double
  manager : Option Employee

namespace Employee

/-- What is not known is stored as null. -/
def toBson : Employee → Bson
  | ⟨id, name, level, rating, manager⟩ =>
    .document
      [("id", .uuid id), ("name", .string name), ("level", level.elim .null .int64),
       ("rating", rating.elim .null .double),
       ("manager", match manager with
         | none => .null
         | some m => m.toBson)]

def ofBson (v : Bson) : Except StoreError Employee := do
  Record.checkForm 5 v
  let id ← Record.required v "id" 0 Record.uuid?
  let name ← Record.required v "name" 1 Record.text?
  let level ← Record.optional v "level" 2 Record.int64?
  let rating ← Record.optional v "rating" 3 Record.double?
  let manager ←
    match _h : Record.part? v "manager" 4 with
    | none | some .null => pure none
    | some m => some <$> ofBson m
  return { id, name, level, rating, manager }
termination_by sizeOf v
decreasing_by exact Record.sizeOf_part_lt _h

def toJson : Employee → Json
  | ⟨id, name, level, rating, manager⟩ =>
    .object
      [("id", .string id.text), ("name", .string name),
       ("level", level.elim .null fun n => .integer n.toInt),
       ("rating", rating.elim .null Double.toJson),
       ("manager", match manager with
         | none => .null
         | some m => m.toJson)]

instance : Record RecordName Employee where
  collection := "employees"
  schema := RecordName.employeeSchema
  id := Employee.id
  toBson r := .ok r.toBson
  ofBson := ofBson
  toJson := toJson

end Employee
end Sift
