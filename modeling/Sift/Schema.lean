import Sift.Error
import Sift.Keyed
import Sift.Text.Split

/-!
Schemas: the fields of a document type and their declared types.

A field may hold a nested document.  Its schema is either written out in place or declared
elsewhere under a name, and a declared schema may mention itself: an employee has a manager, who
is an employee.  `Catalog` says which schema a declared name stands for.  A path is followed one
segment at a time, so following it ends even where the schema goes round in a circle.
-/

namespace Sift

/-- The declared type of a field; `ι` is the type of the names of declared schemas. -/
inductive FieldType (ι : Type) where
  | scalar (type : ScalarType)
  /-- A nested document with a schema written out in place. -/
  | inline (name : String) (fields : List (String × FieldType ι))
  | declared (ref : ι)
  /-- A composite value that no text converts to, such as an array. -/
  | unsupported (typeName : String)

structure Schema (ι : Type) where
  name : String
  /-- The direct fields in the order of their declaration. -/
  fields : List (String × FieldType ι)

/-- The schemas that are declared by name. -/
class Catalog (ι : Type) where
  schema : ι → Schema ι

def pathSeparator : Char := '.'

/-- The segments of a path.  There is at least one, which may be empty. -/
def pathSegments (path : String) : List String := Text.pieces pathSeparator path

namespace FieldType

variable {ι : Type} [Catalog ι]

def schema? : FieldType ι → Option (Schema ι)
  | inline name fields => some ⟨name, fields⟩
  | declared ref => some (Catalog.schema ref)
  | _ => none

/-- The name of a type in messages.  A nested type goes by the name of its schema. -/
def text : FieldType ι → String
  | scalar type => type.name
  | inline name _ => name
  | declared ref => (Catalog.schema ref).name
  | unsupported typeName => typeName

end FieldType

namespace Schema

variable {ι : Type}

def empty (name : String) : Schema ι := ⟨name, []⟩

/-- Adds a field.  A field that is added again keeps its place and gets the later type. -/
def add (s : Schema ι) (field : String) (type : FieldType ι) : Schema ι :=
  { s with fields := Keyed.put Prod.fst (field, type) s.fields }

def ofFields (name : String) (fields : List (String × FieldType ι)) : Schema ι :=
  fields.foldl (fun s (field, type) => s.add field type) (empty name)

def field? (s : Schema ι) (field : String) : Option (FieldType ι) :=
  (Keyed.get? Prod.fst field s.fields).map Prod.snd

/-- The schema as the type of a field that holds such documents. -/
def asField (s : Schema ι) : FieldType ι := .inline s.name s.fields

variable [Catalog ι]

/-- Follows the segments of a path.  Each one but the last has to name a nested document, and the
first that cannot be followed is blamed: a segment that is no field on the schema it is looked up
in, or one that comes after a field without fields of its own.  `path` is the whole path, for the
message. -/
def follow (path : String) : Schema ι → List String → Except FilterError (FieldType ι)
  | s, [] => .error (.unknownField path "" s.name)
  | s, segment :: rest =>
    match s.field? segment with
    | none => .error (.unknownField path segment s.name)
    | some type =>
      match rest with
      | [] => .ok type
      | next :: _ =>
        match type.schema? with
        | some nested => nested.follow path rest
        | none => .error (.unknownField path next type.text)

/-- The type of the field at the end of a path. -/
def resolveField (s : Schema ι) (path : String) : Except FilterError (FieldType ι) :=
  s.follow path (pathSegments path)

def resolve (s : Schema ι) (path : String) : Except FilterError ScalarType := do
  match ← s.resolveField path with
  | .scalar type => return type
  | type => throw (.unsupportedFieldType path type.text)

end Schema

/-- Schemas registered under the names of collections. -/
structure Registry (ι : Type) where
  entries : List (String × Schema ι)

namespace Registry

variable {ι : Type}

def empty : Registry ι := ⟨[]⟩

/-- Registers a schema.  A name that is registered again stands for the later one. -/
def register (r : Registry ι) (name : String) (schema : Schema ι) : Registry ι :=
  ⟨Keyed.put Prod.fst (name, schema) r.entries⟩

def get? (r : Registry ι) (name : String) : Option (Schema ι) :=
  (Keyed.get? Prod.fst name r.entries).map Prod.snd

def names (r : Registry ι) : List String :=
  (r.entries.map Prod.fst).mergeSort fun a b => decide (a ≤ b)

end Registry
end Sift
