import Sift.Number.Shortest
import Sift.Time.Timestamp
import Sift.Uuid

/-!
Scalar types and their values.

The types are a closed list: a field can be filtered on only if it has one of them.  Two values
are equal if they have the same type and the same content, so floating point numbers are told
apart by their bit patterns and a NaN equals itself.
-/

namespace Sift

inductive ScalarType where
  | string
  | int32
  | int64
  | float
  | double
  | boolean
  | timestamp
  | uuid
  deriving DecidableEq, Repr

namespace ScalarType

def all : List ScalarType :=
  [string, int32, int64, float, double, boolean, timestamp, uuid]

def name : ScalarType → String
  | string => "string"
  | int32 => "int32"
  | int64 => "int64"
  | float => "float"
  | double => "double"
  | boolean => "boolean"
  | timestamp => "timestamp"
  | uuid => "uuid"

def ofName? (name : String) : Option ScalarType :=
  all.find? fun t => t.name == name

/-- Values of the type are text. -/
def isTextual (t : ScalarType) : Bool := t = string

end ScalarType

inductive TypedValue where
  | string (text : String)
  | int32 (value : Int32)
  | int64 (value : Int64)
  | float (value : Single)
  | double (value : Double)
  | boolean (value : Bool)
  | timestamp (value : Timestamp)
  | uuid (value : Uuid)
  deriving DecidableEq

namespace TypedValue

def scalarType : TypedValue → ScalarType
  | string _ => .string
  | int32 _ => .int32
  | int64 _ => .int64
  | float _ => .float
  | double _ => .double
  | boolean _ => .boolean
  | timestamp _ => .timestamp
  | uuid _ => .uuid

def asText? : TypedValue → Option String
  | string text => some text
  | _ => none

/-- Equality of type and content. -/
def equal : TypedValue → TypedValue → Bool
  | string a, string b => a == b
  | int32 a, int32 b => a == b
  | int64 a, int64 b => a == b
  | float a, float b => a.toBits == b.toBits
  | double a, double b => a.toBits == b.toBits
  | boolean a, boolean b => a == b
  | timestamp a, timestamp b => a == b
  | uuid a, uuid b => a == b
  | _, _ => false

instance : BEq TypedValue := ⟨equal⟩

/-- What the content of a value feeds to a hasher. -/
def contentFed : TypedValue → List Nat
  | string text => fed text
  | int32 value => [value.toUInt32.toNat]
  | int64 value => [value.toUInt64.toNat]
  | float value => [value.toBits]
  | double value => [value.toBits]
  | boolean value => [value.toNat]
  | timestamp value => [value.seconds.natAbs, value.nanos]
  | uuid value => fed value

/-- A value feeds its type first, and then its content. -/
instance : Feeds TypedValue :=
  ⟨fun v => ScalarType.all.idxOf v.scalarType :: v.contentFed⟩

/-- The canonical text of a value. -/
def text : TypedValue → String
  | string text => text
  | int32 value => toString value.toInt
  | int64 value => toString value.toInt
  | float value => value.text
  | double value => value.text
  | boolean value => if value then "true" else "false"
  | timestamp value => value.text
  | uuid value => value.text

theorem asText?_isSome_iff {v : TypedValue} :
    v.asText?.isSome = true ↔ v.scalarType = .string := by
  cases v <;> simp [asText?, scalarType]

end TypedValue
end Sift
