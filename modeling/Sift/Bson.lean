import Sift.Bson.Subtype
import Sift.Keyed
import Sift.Number.Binary
import Sift.Uuid
import Sift.Value.Scalar

/-!
BSON values.

The kinds are those that a document in a store may hold, but for regular expressions, code with a
scope, decimals of 128 bits and database pointers, which no typed value or record is stored as.

A document is a list of fields in order.  `Document.put` is how a field gets into one, so a key
stands once in every document that is built with it; `Bson.Unique` says so for a value and all
that it holds.
-/

namespace Sift

inductive Bson where
  | null
  | boolean (value : Bool)
  | int32 (value : Int32)
  | int64 (value : Int64)
  | double (value : Double)
  /-- A point in time in milliseconds since the epoch. -/
  | datetime (millis : Int64)
  | string (text : String)
  | binary (subtype : BinarySubtype) (bytes : List UInt8)
  | array (items : List Bson)
  | document (fields : List (String × Bson))
  | objectId (bytes : List UInt8)
  | timestamp (time increment : UInt32)
  | symbol (text : String)
  | code (text : String)
  | undefined
  | minKey
  | maxKey

abbrev Document := List (String × Bson)

namespace Document

def get? (d : Document) (key : String) : Option Bson :=
  (Keyed.get? Prod.fst key d).map Prod.snd

/-- Puts a value under a key, in the place of the one that is there or at the end. -/
def put (d : Document) (key : String) (value : Bson) : Document :=
  Keyed.put Prod.fst (key, value) d

def ofFields (fields : List (String × Bson)) : Document :=
  fields.foldl (fun d (key, value) => d.put key value) []

/-- The document without a key; the other fields keep their order. -/
def remove (d : Document) (key : String) : Document :=
  d.filter fun field => field.1 ≠ key

def keys (d : Document) : List String := d.map Prod.fst

end Document

namespace Bson

def uuid (u : Uuid) : Bson := binary .uuid u.bytes

def asDocument? : Bson → Option Document
  | document fields => some fields
  | _ => none

def asText? : Bson → Option String
  | string text => some text
  | _ => none

def asArray? : Bson → Option (List Bson)
  | array items => some items
  | _ => none

mutual

/-- No document within the value has a key twice. -/
def Unique : Bson → Prop
  | array items => UniqueItems items
  | document fields => (fields.map Prod.fst).Nodup ∧ UniqueFields fields
  | _ => True

def UniqueItems : List Bson → Prop
  | [] => True
  | item :: items => Unique item ∧ UniqueItems items

def UniqueFields : List (String × Bson) → Prop
  | [] => True
  | (_, value) :: fields => Unique value ∧ UniqueFields fields

end

end Bson

/-- The stored form of a typed value.  A float is widened and a time cut to milliseconds. -/
def TypedValue.toBson : TypedValue → Bson
  | string text => .string text
  | int32 value => .int32 value
  | int64 value => .int64 value
  | float value => .double value.toDouble
  | double value => .double value
  | boolean value => .boolean value
  | timestamp value => .datetime (.ofInt value.toMillis)
  | uuid value => .uuid value

end Sift
