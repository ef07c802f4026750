import Sift.Bson

/-!
Equality and order of values in queries.

Numbers are compared across their widths: an integer keeps its exact value against an integer and
is rounded to the nearest double against a double.  Documents are equal if they have the same
keys with equal values, in whatever order.  Only values of one kind are ordered, and arrays,
documents and the rarer kinds are not ordered at all.
-/

namespace Sift
namespace Bson

/-- The exact value of an integer of any width. -/
def asInt? : Bson → Option Int
  | int32 value => some value.toInt
  | int64 value => some value.toInt
  | _ => none

/-- A number as a double; integers are rounded. -/
def asDouble? : Bson → Option Double
  | int32 value => some (.ofInt _ value.toInt)
  | int64 value => some (.ofInt _ value.toInt)
  | double value => some value
  | _ => none

mutual

/-- Equality as queries see it. -/
def same : Bson → Bson → Bool
  | null, null => true
  | boolean a, boolean b => a == b
  | int32 a, int32 b => a.toInt == b.toInt
  | int32 a, int64 b => a.toInt == b.toInt
  | int64 a, int32 b => a.toInt == b.toInt
  | int64 a, int64 b => a.toInt == b.toInt
  | double a, double b => a.same b
  | int32 a, double b => (Binary.ofInt _ a.toInt).same b
  | int64 a, double b => (Binary.ofInt _ a.toInt).same b
  | double a, int32 b => (Binary.ofInt _ b.toInt).same a
  | double a, int64 b => (Binary.ofInt _ b.toInt).same a
  | datetime a, datetime b => a == b
  | string a, string b => a == b
  | binary s a, binary t b => s == t && a == b
  | array as, array bs => sameItems as bs
  | document as, document bs => as.length == bs.length && sameFields as bs
  | objectId a, objectId b => a == b
  | timestamp t i, timestamp u j => t == u && i == j
  | symbol a, symbol b => a == b
  | code a, code b => a == b
  | undefined, undefined => true
  | minKey, minKey => true
  | maxKey, maxKey => true
  | _, _ => false

/-- Equality of arrays, item by item. -/
def sameItems : List Bson → List Bson → Bool
  | [], [] => true
  | a :: as, b :: bs => same a b && sameItems as bs
  | _, _ => false

/-- Every field of the first document has an equal one under its key in the second. -/
def sameFields : List (String × Bson) → Document → Bool
  | [], _ => true
  | (key, a) :: as, bs =>
    (match bs.get? key with
      | some b => same a b
      | none => false) && sameFields as bs

end

/-- The order of two binary values: by length, then the byte of the subtype, then bytes. -/
def compareBinary (s t : BinarySubtype) (a b : List UInt8) : Ordering :=
  (compare a.length b.length).then ((compare s.toByte t.toByte).then (compare a b))

/-- The order as queries see it.  Values of different kinds have none. -/
def compare? (x y : Bson) : Option Ordering :=
  match x, y with
  | boolean a, boolean b => some (compare a b)
  | datetime a, datetime b => some (compare a.toInt b.toInt)
  | string a, string b => some (compare a b)
  | binary s a, binary t b => some (compareBinary s t a b)
  | x, y =>
    match x.asInt?, y.asInt? with
    | some a, some b => some (compare a b)
    | _, _ =>
      match x.asDouble?, y.asDouble? with
      | some a, some b => a.compare? b
      | _, _ => none

end Bson
end Sift
