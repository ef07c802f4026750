import Sift.Error
import Sift.Time.Read

/-!
Reading a text as a value of a scalar type.
-/

namespace Sift
namespace ScalarType

/-- Stored times have milliseconds, so a finer one is refused rather than cut. -/
def readTimestamp (text : String) : Except CoercionFault Timestamp :=
  match Timestamp.read? text with
  | none => .error .notTimestamp
  | some t => if t.nanos % 1000000 = 0 then .ok t else .error .tooPrecise

def readBoolean (text : String) : Except CoercionFault Bool :=
  if Text.sameIgnoringCase text "true" then .ok true
  else if Text.sameIgnoringCase text "false" then .ok false
  else .error .notBoolean

/-- The value that a text denotes, or why it denotes none. -/
def read (t : ScalarType) (text : String) : Except CoercionFault TypedValue :=
  match t with
  | string => .ok (.string text)
  | int32 => (Integer.read 32 text).mapError .integer |>.map fun n => .int32 (.ofInt n)
  | int64 => (Integer.read 64 text).mapError .integer |>.map fun n => .int64 (.ofInt n)
  | float => (Decimal.read .single text).mapError .float |>.map .float
  | double => (Decimal.read .double text).mapError .float |>.map .double
  | boolean => (readBoolean text).map .boolean
  | timestamp => (readTimestamp text).map .timestamp
  | uuid =>
    match Uuid.read? text with
    | some u => .ok (.uuid u)
    | none => .error .notUuid

/-- Converts a text to a value of the type.  The error names the text and the type. -/
def coerce (t : ScalarType) (text : String) : Except FilterError TypedValue :=
  (t.read text).mapError (.coercion text t)

end ScalarType
end Sift
