import Sift.Derive.Options
import Sift.Schema

/-!
Schemas derived from declarations.

The fields of the schema are those of the declaration that are not skipped, in their order.  A
field goes by the name given for it, or else by its own name after the naming rule.
-/

namespace Sift

/-- A schema whose types are still written as in the declaration.  Two fields may have one
name. -/
structure DerivedSchema where
  name : String
  fields : List (String × String)
  deriving DecidableEq, Repr

/-- The schema itself, once it is known what the types stand for. -/
def DerivedSchema.toSchema {ι : Type} (typeOf : String → FieldType ι) (d : DerivedSchema) :
    Schema ι :=
  .ofFields d.name (d.fields.map fun (name, type) => (name, typeOf type))

namespace Outline

/-- Schemas are derived for records with named fields and without parameters. -/
def checkForm (o : Outline) : Except DeriveFault Unit :=
  if o.isGeneric then .error .genericType
  else
    match o.form with
    | .record => .ok ()
    | .tuple | .unit => .error .unnamedFields
    | .variants | .union => .error .notARecord

/-- The name of a field in filters. -/
def filterName (rule : Option NamingRule) (field : FieldOutline) (o : FieldOptions) : String :=
  o.givenName.getD (rule.elim id NamingRule.apply field.name)

/-- The key of a field in stored documents, which is the name given for reading and writing alike, or
else what the rule makes of the name of the field.  A key that is given for writing only, as in
`rename(serialize = ..)`, is not considered, nor is a field that is written out in place of itself
(`flatten`). -/
def storedKey (rule : Option NamingRule) (field : FieldOutline) (o : FieldOptions) : String :=
  o.storedAs.getD (rule.elim id NamingRule.storedKey field.name)

/-- The fields with their options, the skipped ones too. -/
def fieldOptions (o : Outline) : Except DeriveFault (List (FieldOutline × FieldOptions)) :=
  o.fields.mapM fun field => do return (field, ← FieldOptions.read field.attributes)

def derive (o : Outline) : Except DeriveFault DerivedSchema := do
  o.checkForm
  let options ← RecordOptions.read o.attributes
  let fields ← o.fieldOptions
  return {
    name := options.name.getD o.name
    fields := (fields.filter fun f => !f.2.skip).map fun f =>
      (filterName options.rule f.1 f.2, f.1.type) }

end Outline

/-- The schema of what a declaration says. -/
def Declaration.derive (d : Declaration) : Except DeriveFault DerivedSchema := do
  (← d.outline).derive

end Sift
