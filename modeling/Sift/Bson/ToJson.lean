import Sift.Bson
import Sift.Bson.Base64
import Sift.Bson.Display
import Sift.Json

/-!
BSON values as JSON.

Numbers stand as they are, and bytes without a kind of their own become a list of numbers.  A
value of a kind that JSON does not have becomes an object whose member names begin with a dollar
sign, and a number that is not finite becomes `null`.
-/

namespace Sift

/-- A number as JSON. -/
def Double.toJson (x : Double) : Json :=
  if x.isNaN || x.isInfinite then .null
  else
    let d := if x.magnitude.val = 0 then ⟨0, 0⟩ else Binary.shortest .double x.magnitude
    .decimal x.negative d.digits d.exponent

namespace Bson

/-- A point in time as JSON. -/
def datetimeJson (millis : Int64) : Json :=
  .object [("$date", .object [("$numberLong", .string (toString millis.toInt))])]

mutual

def toJson : Bson → Json
  | null => .null
  | boolean value => .bool value
  | int32 value => .integer value.toInt
  | int64 value => .integer value.toInt
  | double value => value.toJson
  | datetime millis => datetimeJson millis
  | string text => .string text
  | binary subtype bytes =>
    if subtype = .generic then .array (bytes.map fun b => .integer b.toNat)
    else
      .object [("$binary", .object
        [("base64", .string (String.ofList (Base64.encode bytes))),
         ("subType", .string (String.ofList (Text.hexByte subtype.toByte)))])]
  | array items => .array (itemsToJson items)
  | document fields => .object (fieldsToJson fields)
  | objectId bytes => .object [("$oid", .string (hexText bytes))]
  | timestamp time increment =>
    .object [("$timestamp", .object
      [("t", .integer time.toNat), ("i", .integer increment.toNat)])]
  | symbol text => .object [("$symbol", .string text)]
  | code text => .object [("$code", .string text)]
  | undefined => .object [("$undefined", .bool true)]
  | minKey => .object [("$minKey", .integer 1)]
  | maxKey => .object [("$maxKey", .integer 1)]

def itemsToJson : List Bson → List Json
  | [] => []
  | item :: items => item.toJson :: itemsToJson items

def fieldsToJson : List (String × Bson) → List (String × Json)
  | [] => []
  | (key, value) :: fields => (key, value.toJson) :: fieldsToJson fields

end

end Bson
end Sift
