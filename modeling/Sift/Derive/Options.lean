import Sift.Derive.Naming
import Sift.Derive.Outline

/-!
The options on a declaration and on its fields that have a say in the schema.

Attributes are read in order, and an option that is given again counts as given last.  Options of
storage that are not for us are passed over, with whatever they hold; options of filters are all
for us, so another one is a fault.
-/

namespace Sift

/-- Reads the settings of all attributes in order.  An attribute has to list settings, and to list
nothing else. -/
def SettingsAttribute.foldSettings {σ : Type}
    (step : AttributeFamily → σ → Setting → Except DeriveFault σ) (start : σ)
    (attributes : List SettingsAttribute) : Except DeriveFault σ :=
  attributes.foldlM (fun s a =>
    match a.settings with
    | none => .error .illFormed
    | some listed => do
      let s ← listed.settings.foldlM (step a.family) s
      if listed.isComplete then return s else throw .illFormed) start

namespace Setting

/-- The text given for a setting, which has to be one and nothing more. -/
def value (s : Setting) : Except DeriveFault String :=
  match s.content with
  | .text value .whole => .ok value
  | _ => .error .illFormed

/-- The naming rule given for a setting, by its name. -/
def rule (s : Setting) : Except DeriveFault NamingRule :=
  match s.content with
  | .text value ending => do
    let rule ← NamingRule.read value
    if ending = .whole then return rule else throw .illFormed
  | _ => .error .illFormed

/-- A setting that stands alone, as it has to. -/
def bare (s : Setting) : Except DeriveFault Unit :=
  match s.content with
  | .bare => .ok ()
  | _ => .error .illFormed

/-- The setting is passed over, which needs no more than that it can be read. -/
def ignored (s : Setting) : Except DeriveFault Unit :=
  if s.isReadable then .ok () else .error .illFormed

/-- The name is followed by an equals sign. -/
def hasValue (s : Setting) : Bool :=
  match s.content with
  | .text _ _ => true
  | .code => true
  | _ => false

end Setting

/-! ## Options of a declaration -/

structure RecordOptions where
  /-- The name of the schema. -/
  name : Option String
  rule : Option NamingRule
  deriving DecidableEq

namespace RecordOptions

def none : RecordOptions := ⟨.none, .none⟩

def set : AttributeFamily → RecordOptions → Setting → Except DeriveFault RecordOptions
  | .storage, o, setting =>
    if setting.name = some "rename_all" ∧ setting.hasValue then do
      return { o with rule := some (← setting.rule) }
    else do
      setting.ignored
      return o
  | .filter, o, setting =>
    if setting.name = some "rename" then do
      return { o with name := some (← setting.value) }
    else .error .expectedRename

def read (attributes : List SettingsAttribute) : Except DeriveFault RecordOptions :=
  SettingsAttribute.foldSettings set none attributes

end RecordOptions

/-! ## Options of a field -/

structure FieldOptions where
  /-- The key in stored documents. -/
  storedAs : Option String
  /-- The name in filters. -/
  filteredAs : Option String
  /-- The field is left out. -/
  skip : Bool
  deriving DecidableEq

namespace FieldOptions

def none : FieldOptions := ⟨.none, .none, false⟩

def set : AttributeFamily → FieldOptions → Setting → Except DeriveFault FieldOptions
  | .storage, o, setting =>
    if setting.name = some "rename" ∧ setting.hasValue then do
      return { o with storedAs := some (← setting.value) }
    else if setting.name = some "skip" then do
      setting.bare
      return { o with skip := true }
    else do
      setting.ignored
      return o
  | .filter, o, setting =>
    if setting.name = some "rename" then do
      return { o with filteredAs := some (← setting.value) }
    else if setting.name = some "skip" then do
      setting.bare
      return { o with skip := true }
    else .error .expectedRenameOrSkip

def read (attributes : List SettingsAttribute) : Except DeriveFault FieldOptions :=
  SettingsAttribute.foldSettings set none attributes

/-- The name given for the field: the one for filters before the one for storage. -/
def givenName (o : FieldOptions) : Option String := o.filteredAs.or o.storedAs

end FieldOptions
end Sift
