import Sift.Bson
import Sift.Bson.Base64
import Sift.Number.Integer
import Sift.Time.Instant

/-!
Documents that stand for values of other kinds.

Field names that begin with a dollar sign are special.  A document with such a field stands for
the value that the first of them writes: `$date` for a point in time, `$uuid` and `$binary` for
bytes, and so on.  `Bson.ofExtended?` puts the values in the place of the documents; it fails if a
special field is not written as it should be, or if it writes a value of a kind that `Bson` does
not have.
-/

namespace Sift
namespace Bson

/-! ## Simple values -/

/-- A text, or bytes without a kind of their own that encode one. -/
def readText? : Bson → Option String
  | string text => some text
  | binary subtype bytes =>
    if subtype = .generic then String.fromUTF8? ⟨bytes.toArray⟩ else none
  | _ => none

/-- An integer of either width. -/
def readInteger? : Bson → Option Int
  | int32 n => some n.toInt
  | int64 n => some n.toInt
  | _ => none

/-- A text as an integer of `width` bits. -/
def readDecimal? (width : Nat) (v : Bson) : Option Int := do
  (Integer.read width (← v.readText?)).toOption

/-- The parts of a value that is written as a document with these fields and no others, or as a
list that begins with them. -/
def parts? (names : List String) : Bson → Option (List Bson)
  | document fields =>
    if fields.all fun field => names.contains field.1 then names.mapM (Document.get? fields)
    else none
  | array items => if names.length ≤ items.length then some (items.take names.length) else none
  | _ => none

/-! ## Special fields -/

/-- A point in time: its text, or its number of milliseconds.  As a list the latter stands
alone. -/
def readDate? (v : Bson) : Option Int64 :=
  match v with
  | array [n] => (n.readDecimal? 64).map .ofInt
  | document fields =>
    (parts? ["$numberLong"] (document fields)).bind fun
      | [n] => (n.readDecimal? 64).map .ofInt
      | _ => none
  | v => do return .ofInt (← Timestamp.readMillis? (← v.readText?))

/-- Bytes to the base 64 and their subtype as two hexadecimal digits. -/
def readBinary? (v : Bson) : Option Bson :=
  (parts? ["base64", "subType"] v).bind fun
    | [digits, subtype] => do
      let bytes ← Base64.decode (← digits.readText?).toList
      match ← Uuid.readBytes (← subtype.readText?).toList with
      | [b] => return binary (.ofByte b) bytes
      | _ => none
    | _ => none

def readObjectId? : Bson → Option Bson
  | binary subtype bytes =>
    if subtype = .generic ∧ bytes.length = 12 then some (objectId bytes) else none
  | string text => do
    let bytes ← Uuid.readBytes text.toList
    if bytes.length = 12 then return objectId bytes else none
  | _ => none

def readTimestamp? (v : Bson) : Option Bson :=
  let word (n : Int) : Option UInt32 :=
    if 0 ≤ n ∧ n < 4294967296 then some (.ofNat n.toNat) else none
  (parts? ["t", "i"] v).bind fun
    | [t, i] => do
      return timestamp (← word (← t.readInteger?)) (← word (← i.readInteger?))
    | _ => none

/-- Only the numbers that have no digits are doubles. -/
def readNumber? (v : Bson) : Option Bson := do
  match ← v.readText? with
  | "Infinity" => return double (.infinite _ false)
  | "-Infinity" => return double (.infinite _ true)
  | "NaN" => return double (.quietNaN _ false)
  | _ => return int64 (.ofInt (← v.readDecimal? 64))

/-- What a special field writes; `rest` are the fields behind it.  Nothing if the name is not
special. -/
def readSpecial (name : String) (v : Bson) (rest : Document) : Option (Option Bson) :=
  match name with
  | "$oid" => some v.readObjectId?
  | "$symbol" => some (v.readText?.map symbol)
  | "$numberInt" => some ((v.readDecimal? 32).map fun n => int32 (.ofInt n))
  | "$numberLong" => some ((v.readDecimal? 64).map fun n => int64 (.ofInt n))
  | "$numberDouble" => some v.readNumber?
  | "$binary" => some v.readBinary?
  | "$uuid" => some (v.readText?.bind fun text => (Uuid.read? text).map uuid)
  | "$code" => some (if rest.isEmpty then v.readText?.map code else none)
  | "$timestamp" => some v.readTimestamp?
  | "$date" => some (v.readDate?.map datetime)
  | "$maxKey" => some (if v.readInteger? = some 1 then some maxKey else none)
  | "$minKey" => some (if v.readInteger? = some 1 then some minKey else none)
  | "$undefined" => some (match v with
    | boolean true => some undefined
    | _ => none)
  | "$scope" | "$regularExpression" | "$dbPointer" | "$numberDecimal" => some none
  | _ => none

/-! ## Values -/

mutual

/-- The value with all documents replaced that stand for another one. -/
def ofExtended? : Bson → Option Bson
  | array items => (itemsOfExtended? items).map array
  | document fields => fieldsOfExtended? [] fields
  | v => some v

def itemsOfExtended? : List Bson → Option (List Bson)
  | [] => some []
  | item :: items => do return (← item.ofExtended?) :: (← itemsOfExtended? items)

/-- The value of a document; `before` are the fields that were read.  Fields behind a special one
say nothing. -/
def fieldsOfExtended? (before : Document) : List (String × Bson) → Option Bson
  | [] => some (document before)
  | (name, value) :: rest =>
    match readSpecial name value rest with
    | some result => result
    | none => do fieldsOfExtended? (before.put name (← value.ofExtended?)) rest

end

end Bson
end Sift
