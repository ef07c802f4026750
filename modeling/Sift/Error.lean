import Sift.Filter.Operator
import Sift.Number.Integer
import Sift.Value.Scalar

/-!
What can go wrong, and how it is told.

An error carries its cause.  `message` words it, and `isClientError` says whether the request is
to blame rather than the store.  A cause named `other` carries the words of whoever raised it.
-/

namespace Sift

inductive CoercionFault where
  | integer (fault : Integer.Fault)
  | float (fault : Decimal.Fault)
  | notBoolean
  | notTimestamp
  | tooPrecise
  | notUuid
  /-- A pattern was given for a field that holds no text. -/
  | notText
  | other (reason : String)
  deriving DecidableEq, Repr

/-- The reason in words, where the text alone does not say it. -/
def CoercionFault.reason? : CoercionFault → Option String
  | integer fault => some fault.message
  | float fault => some fault.message
  | notBoolean => some "expected `true` or `false`"
  | notTimestamp => none
  | tooPrecise => some "precision finer than milliseconds is not supported"
  | notUuid => none
  | notText => some "regex filters apply to string fields only"
  | other reason => some reason

inductive ShapeFault where
  | patternNotText (field : String) (type : ScalarType)
  | needsSet (op : Operator) (field : String)
  | needsSingle (op : Operator) (field : String)
  | other (detail : String)
  deriving DecidableEq, Repr

def ShapeFault.message : ShapeFault → String
  | patternNotText field type =>
    s!"regex on `{field}` requires a string pattern, got {type.name}"
  | needsSet op field => s!"operator {op.name} on `{field}` requires a set of values"
  | needsSingle op field => s!"operator {op.name} on `{field}` requires a single value"
  | other detail => detail

inductive FilterError where
  | malformed (token : String)
  | unknownField (path segment schema : String)
  | unsupportedFieldType (path typeName : String)
  | unknownOperator (text : String)
  | coercion (value : String) (target : ScalarType) (fault : CoercionFault)
  | invariantViolation (fault : ShapeFault)
  deriving DecidableEq, Repr

def FilterError.message : FilterError → String
  | malformed token => s!"Filter `{token}` is not in the format field|operator|value"
  | unknownField path segment schema => s!"Unknown field `{segment}` in path `{path}` of {schema}"
  | unsupportedFieldType path typeName =>
    s!"Filtering not supported for field `{path}` of type {typeName}"
  | unknownOperator text => s!"Unknown operator: {text}"
  | coercion value target fault =>
    let start := s!"Cannot convert `{value}` to {target.name}"
    match fault.reason? with
    | some reason => s!"{start}: {reason}"
    | none => start
  | invariantViolation fault => s!"Invariant violation: {fault.message}"

inductive PaginationFault where
  | zeroSize
  | outOfRange (page size : Nat)
  | limitOutOfRange (limit : Nat)
  | other (detail : String)
  deriving DecidableEq, Repr

def PaginationFault.message : PaginationFault → String
  | zeroSize => "page size must be positive"
  | outOfRange page size => s!"page {page} of size {size} is out of range"
  | limitOutOfRange limit => s!"limit {limit} is out of range"
  | other detail => detail

inductive BackendFault where
  /-- A pattern is a value other than text, which is shown. -/
  | patternNotText (field shown : String)
  | badPattern (pattern : String)
  /-- A pattern was not compiled with its query. -/
  | patternMissing (shown : String)
  | needsArray (op : Operator) (field : String)
  | needsPattern (field : String)
  | other (detail : String)
  deriving DecidableEq, Repr

def BackendFault.message : BackendFault → String
  | patternNotText field shown => s!"regex on `{field}` must be a string, got {shown}"
  | badPattern pattern => s!"regex parse error: {pattern}"
  | patternMissing shown => s!"regex {shown} was not compiled"
  | needsArray op field => s!"{op.name} on `{field}` requires an array value"
  | needsPattern field => s!"regex on `{field}` requires a string pattern"
  | other detail => detail

inductive StoreError where
  | serialization (detail : String)
  | initialization (detail : String)
  | documentAlreadyExists (id collection : String)
  | invalidDocument (detail : String)
  | invalidPagination (fault : PaginationFault)
  | filter (error : FilterError)
  | backend (fault : BackendFault)
  deriving DecidableEq, Repr

namespace StoreError

def message : StoreError → String
  | serialization detail => s!"Serialization error: {detail}"
  | initialization detail => s!"Initialization error: {detail}"
  | documentAlreadyExists id collection =>
    s!"Document {id} already exists in collection {collection}"
  | invalidDocument detail => s!"Invalid document: {detail}"
  | invalidPagination fault => s!"Invalid pagination: {fault.message}"
  | filter error => error.message
  | backend fault => s!"Backend error: {fault.message}"

/-- The request caused the error.  An entry of the wrong shape is not the client's doing, since no
token reads as one. -/
def isClientError : StoreError → Bool
  | filter (.invariantViolation _) => false
  | filter _ => true
  | invalidPagination _ => true
  | _ => false

end StoreError
end Sift
