/-!
Declarations of types as they are written in a program, with attributes on the declaration and on
its fields.

An attribute lists options.  Those of `serde` say how a value is stored, those of `filter` how it
is filtered on, and all other attributes are none of our business.  Names, types and parameters are
still pieces of code here; `Outline` says what they stand for.
-/

namespace Sift

/-- One option of an attribute. -/
inductive AttributeOption where
  /-- A name alone. -/
  | flag (name : String)
  /-- A name with a text: `name = "value"`. -/
  | text (name value : String)
  /-- A name with other code: `name = code`. -/
  | code (name source : String)
  /-- A name with options of its own: `name(options)`. -/
  | nested (name : String) (options : List AttributeOption)

/-- What follows the name of an attribute. -/
inductive AttributeContent where
  | absent
  | text (value : String)
  | options (options : List AttributeOption)

structure Attribute where
  name : String
  content : AttributeContent

structure FieldDeclaration where
  name : String
  type : String
  attributes : List Attribute

/-- What kind of type is declared. -/
inductive DeclarationForm where
  /-- A record whose fields have names. -/
  | record
  /-- A record whose fields have places only. -/
  | tuple
  | unit
  | variants
  | union
  deriving DecidableEq, Repr

structure Declaration where
  form : DeclarationForm
  name : String
  /-- The parameters in their brackets, if there are brackets. -/
  parameters : String
  attributes : List Attribute
  fields : List FieldDeclaration

end Sift
