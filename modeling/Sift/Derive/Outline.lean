import Sift.Code.Parameters
import Sift.Derive.Fault
import Sift.Derive.Setting

/-!
What a declaration says.

The outline of a declaration has its names as they are called, its types as they are written
without white space, and the settings of those attributes that are read.  A declaration that is not
written as declarations are has none.
-/

namespace Sift

open Code (Rest Token)

/-- The attributes that are read. -/
inductive AttributeFamily where
  | storage
  | filter
  deriving DecidableEq, Repr

namespace AttributeFamily

def ofName? : String → Option AttributeFamily
  | "serde" => some storage
  | "filter" => some filter
  | _ => none

end AttributeFamily

/-- An attribute of a family that is read; it has settings if it lists options, if only none. -/
structure SettingsAttribute where
  family : AttributeFamily
  settings : Option Settings

structure FieldOutline where
  name : String
  type : String
  attributes : List SettingsAttribute

structure Outline where
  form : DeclarationForm
  name : String
  isGeneric : Bool
  attributes : List SettingsAttribute
  fields : List FieldOutline

/-! ## Attributes -/

/-- The attribute is written as attributes are. -/
def Attribute.isWritten (a : Attribute) : Bool :=
  let name := Rest.ofTokens (tokensOf a.name)
  let content := match a.content with
    | .options options => haveTokens options
    | _ => true
  !name.atWord "try" && name.plainPath?.any Rest.isDone && content

/-- The family is that of an attribute whose name is one word without a mark. -/
def Attribute.family? (a : Attribute) : Option AttributeFamily :=
  match tokensOf a.name with
  | [.word name false] => AttributeFamily.ofName? name
  | _ => none

/-- The attribute with its settings, if it is one that is read. -/
def Attribute.settings? (a : Attribute) : Option SettingsAttribute := do
  let family ← a.family?
  match a.content with
  | .options options => return ⟨family, some (.joined (settingsOfEach options))⟩
  | _ => return ⟨family, none⟩

def Attribute.outlines (attributes : List Attribute) : List SettingsAttribute :=
  attributes.filterMap Attribute.settings?

/-! ## Names and types -/

/-- The name at the start of some code, without the mark `r#`, which stands in front of a name that
is a keyword too. -/
def leadingName (r : Rest) : Option (String × Rest) :=
  match r.tokens with
  | .word name _ :: _ => some (name, r.skip 1)
  | _ => none

/-- The name of a field, behind the word that says who may see it. -/
def fieldName? (text : String) : Option String := do
  let tokens ← Token.readAll? text
  let r := Code.visibility (.ofTokens tokens)
  let (name, after) ← leadingName r
  if (r.atName || r.atWord "_") && after.isDone then return name else none

/-- A type without white space and comments. -/
def typeText? (text : String) : Option String := do
  let tokens ← Token.readAll? text
  let after ← (Rest.ofTokens tokens).type?
  let chars := (Token.charsOf tokens).filter fun c => !Text.isBlank c
  if after.isDone then return String.ofList chars else none

/-! ## Declarations -/

def FieldDeclaration.outline? (f : FieldDeclaration) : Option FieldOutline := do
  guard (f.attributes.all Attribute.isWritten)
  return ⟨← fieldName? f.name, ← typeText? f.type, Attribute.outlines f.attributes⟩

/-- The fields, as far as their form has names and types. -/
def Declaration.fieldOutlines? (d : Declaration) : Option (List FieldOutline) :=
  match d.form with
  | .record | .union => d.fields.mapM FieldDeclaration.outline?
  | .tuple => d.fields.mapM fun f => do return ⟨"", ← typeText? f.type, []⟩
  | .variants => d.fields.mapM fun f => do
    let tokens ← Token.readAll? f.name
    let (name, after) ← leadingName (.ofTokens tokens)
    if (Rest.ofTokens tokens).atName && after.isDone then return ⟨name, "", []⟩ else none
  | .unit => some []

/-- What stands in front of the fields: the name, the parameters and what is asked of them. -/
def Declaration.header? (d : Declaration) : Option (String × Bool) := do
  let tokens := (← Token.readAll? d.name) ++ (← Token.readAll? d.parameters)
  let start := Rest.ofTokens tokens
  guard start.atName
  let (name, r) ← leadingName start
  let g := Code.Grammar.covering start
  let after ← Code.parameters g r
  let after ← if d.form = .tuple then some after else Code.whereClause g after
  if after.isDone then return (name, Code.hasParameters r) else none

def Declaration.outline (d : Declaration) : Except DeriveFault Outline :=
  let outline? : Option Outline := do
    guard (d.attributes.all Attribute.isWritten)
    let (name, isGeneric) ← d.header?
    return ⟨d.form, name, isGeneric, Attribute.outlines d.attributes, ← d.fieldOutlines?⟩
  match outline? with
  | some outline => .ok outline
  | none => .error .illFormed

end Sift
