import Sift.Proofs.Derive.Rearrange
import Sift.Proofs.Schema.Built

/-!
# Schemas from attributes

What the schema of a declaration is, and what does not matter to it.  The outline has the names and
types that stand in the code of the declaration (`header?_eq_some`, `fieldName?_eq_some`,
`typeText?_eq_some`).  Its settings decide names and fields (`Outline.derive_eq_ok_iff`), and
attributes that are written in another way have the same outline but for settings that are passed
over (`outline_of_rearranged`).  `derive_precedence` puts this together.
-/

namespace Sift

open Code (Rest Token)

/-! ## Names and types in code -/

/-- The tokens say who may see what is declared, or nothing. -/
inductive IsVisibility : List Token → Prop where
  | none : IsVisibility []
  | word : IsVisibility [.word "pub" false]
  | group (inside : List Token) : IsVisibility [.word "pub" false, .group .round inside]

/-- The code is a name, with or without a mark, behind what says who may see it. -/
def NamesField (text name : String) : Prop :=
  ∃ front marked, Token.readAll? text = some (front ++ [.word name marked]) ∧ IsVisibility front

/-- The type is the code, token by token and without what is blank. -/
def SpellsType (text type : String) : Prop :=
  ∃ tokens, Token.readAll? text = some tokens ∧
    type = String.ofList ((Token.charsOf tokens).filter fun c => !Text.isBlank c)

/-- The name, with or without a mark, is the first word of the declaration. -/
def Declaration.StartsWithName (d : Declaration) (name : String) : Prop :=
  ∃ tokens more rest marked, Token.readAll? d.name = some tokens ∧
    Token.readAll? d.parameters = some more ∧ tokens ++ more = .word name marked :: rest

section

variable {r after : Rest} {name : String}

theorem tokens_of_atWord {keyword : String} (h : r.atWord keyword = true) :
    ∃ rest, r.tokens = .word keyword false :: rest := by
  unfold Rest.atWord at h
  split at h
  · rename_i found rest htokens
    exact ⟨rest, by rw [htokens, eq_of_beq h]⟩
  · cases h

theorem tokens_of_group? {bracket : Code.Bracket} {inside : Code.Reader}
    (h : r.group? bracket inside = some after) :
    ∃ tokens, r.tokens = .group bracket tokens :: after.tokens := by
  unfold Rest.group? at h
  split at h
  · rename_i b tokens rest htokens
    split at h
    · rename_i hb
      obtain ⟨left, -, hafter⟩ := Option.bind_eq_some_iff.mp h
      exact ⟨tokens, by rw [htokens, hb, ← Option.some.inj hafter]⟩
    · cases h
  · cases h

theorem tokens_of_leadingName (h : leadingName r = some (name, after)) :
    ∃ marked, r.tokens = .word name marked :: after.tokens := by
  unfold leadingName at h
  split at h
  · rename_i found marked rest htokens
    obtain ⟨rfl, rfl⟩ := Prod.mk.inj (Option.some.inj h)
    exact ⟨marked, by rw [Rest.skip, htokens]; rfl⟩
  · cases h

theorem tokens_of_isDone (h : r.isDone = true) : r.tokens = [] := by
  rw [Rest.isDone, Bool.and_eq_true] at h
  exact List.isEmpty_iff.mp h.1

/-- What is left behind the word for who may see it, if there is one. -/
theorem exists_visibility (r : Rest) :
    ∃ front, r.tokens = front ++ (Code.visibility r).tokens ∧ IsVisibility front := by
  unfold Code.visibility
  by_cases hpub : r.atWord "pub" = true
  · obtain ⟨rest, hr⟩ := tokens_of_atWord hpub
    have hskip : (r.skip 1).tokens = rest := by rw [Rest.skip, hr]; rfl
    rw [if_pos hpub]
    dsimp only
    split
    · rename_i after hgroup
      obtain ⟨inside, hinside⟩ := tokens_of_group? hgroup
      split
      · exact ⟨_, by rw [hr, hskip]; rfl, .word⟩
      · exact ⟨_, by rw [hr, ← hskip, hinside]; rfl, .group inside⟩
    · exact ⟨_, by rw [hr, hskip]; rfl, .word⟩
  · rw [if_neg hpub]
    exact ⟨[], rfl, .none⟩

end

theorem fieldName?_eq_some {text name : String} (h : fieldName? text = some name) :
    NamesField text name := by
  obtain ⟨tokens, htokens, h⟩ := Option.bind_eq_some_iff.mp h
  obtain ⟨⟨found, after⟩, hlead, h⟩ := Option.bind_eq_some_iff.mp h
  obtain ⟨marked, hmarked⟩ := tokens_of_leadingName hlead
  obtain ⟨front, hfront, hvisible⟩ := exists_visibility (.ofTokens tokens)
  by_cases hdone : after.isDone = true
  · simp only [hdone, Bool.and_true] at h
    split at h
    · rw [hmarked, tokens_of_isDone hdone, Option.some.inj h] at hfront
      exact ⟨front, marked, by rw [htokens, ← hfront]; rfl, hvisible⟩
    · cases h
  · simp [hdone] at h

theorem typeText?_eq_some {text type : String} (h : typeText? text = some type) :
    SpellsType text type := by
  obtain ⟨tokens, htokens, h⟩ := Option.bind_eq_some_iff.mp h
  obtain ⟨after, -, h⟩ := Option.bind_eq_some_iff.mp h
  simp only at h
  split at h
  · exact ⟨tokens, htokens, (Option.some.inj h).symm⟩
  · cases h

theorem header?_eq_some {d : Declaration} {name : String} {isGeneric : Bool}
    (h : d.header? = some (name, isGeneric)) : d.StartsWithName name := by
  obtain ⟨tokens, htokens, h⟩ := Option.bind_eq_some_iff.mp h
  obtain ⟨more, hmore, h⟩ := Option.bind_eq_some_iff.mp h
  obtain ⟨_, -, h⟩ := Option.bind_eq_some_iff.mp h
  obtain ⟨⟨found, r⟩, hlead, h⟩ := Option.bind_eq_some_iff.mp h
  obtain ⟨_, -, h⟩ := Option.bind_eq_some_iff.mp h
  obtain ⟨marked, hmarked⟩ := tokens_of_leadingName hlead
  -- whatever is read behind the parameters, the name is the one in front of them
  have hname : found = name := by
    dsimp only at h
    split at h <;>
    · obtain ⟨after, -, h⟩ := Option.bind_eq_some_iff.mp h
      split at h
      · exact (Prod.mk.inj (Option.some.inj h)).1
      · cases h
  subst hname
  exact ⟨tokens, more, r.tokens, marked, htokens, hmore, hmarked⟩

/-! ## Fields with their types -/

namespace DerivedSchema

variable {ι : Type} (typeOf : String → FieldType ι) (d : DerivedSchema)

theorem map_fst_toSchema :
    (d.toSchema typeOf).fields.map Prod.fst = (d.fields.map Prod.fst).eraseDups := by
  rw [toSchema, Schema.map_fst_ofFields, List.map_map]
  rfl

theorem field?_toSchema (name : String) :
    (d.toSchema typeOf).field? name =
      (d.fields.filter fun field => field.1 = name).getLast?.map fun field =>
        typeOf field.2 := by
  rw [toSchema, Schema.field?_ofFields, List.filter_map, List.getLast?_map, Option.map_map]
  rfl

end DerivedSchema

/-! ## Outlines that are read alike -/

/-- The fields are read alike. -/
structure FieldOutline.Same (f g : FieldOutline) : Prop where
  name : g.name = f.name
  type : g.type = f.type
  options : FieldOptions.ofGiven g.given = FieldOptions.ofGiven f.given
  wellFormed : SettingsAttribute.WellFormed FieldOptions.Allowed f.attributes →
    SettingsAttribute.WellFormed FieldOptions.Allowed g.attributes

theorem FieldOutline.wellFormed_of_same {fs gs : List FieldOutline}
    (h : List.Forall₂ Same fs gs)
    (hfs : ∀ f ∈ fs, SettingsAttribute.WellFormed FieldOptions.Allowed f.attributes) :
    ∀ g ∈ gs, SettingsAttribute.WellFormed FieldOptions.Allowed g.attributes := by
  induction h with
  | nil => exact List.forall_mem_nil _
  | cons hf _ ih =>
    rw [List.forall_mem_cons] at hfs ⊢
    exact ⟨hf.wellFormed hfs.1, ih hfs.2⟩

/-- The options of a field and its name decide what becomes of it. -/
theorem FieldOutline.entries_of_same {fs gs : List FieldOutline} (h : List.Forall₂ Same fs gs)
    (rule : Option NamingRule) :
    (gs.filter fun g => !g.isSkipped).map (fun g => (g.nameBy rule, g.type)) =
      (fs.filter fun f => !f.isSkipped).map (fun f => (f.nameBy rule, f.type)) := by
  induction h with
  | nil => rfl
  | @cons f g fs gs hf _ ih =>
    have hskip : g.isSkipped = f.isSkipped := congrArg FieldOptions.skip hf.options
    have hname : g.nameBy rule = f.nameBy rule := by
      rw [← Outline.filterName_ofGiven, ← Outline.filterName_ofGiven, hf.options,
        Outline.filterName, Outline.filterName, hf.name]
    rw [List.filter_cons, List.filter_cons, hskip]
    split
    · rw [List.map_cons, List.map_cons, ih, hname, hf.type]
    · exact ih

/-- The outlines are read alike. -/
structure Outline.Same (o p : Outline) : Prop where
  form : p.form = o.form
  name : p.name = o.name
  isGeneric : p.isGeneric = o.isGeneric
  options : RecordOptions.ofGiven p.given = RecordOptions.ofGiven o.given
  wellFormed : SettingsAttribute.WellFormed RecordOptions.Allowed o.attributes →
    SettingsAttribute.WellFormed RecordOptions.Allowed p.attributes
  fields : List.Forall₂ FieldOutline.Same o.fields p.fields

namespace Outline

variable {o p : Outline} {schema : DerivedSchema}

theorem schema_of_same (h : o.Same p) : p.schema = o.schema := by
  have hname : lastText .filter "rename" p.given = lastText .filter "rename" o.given :=
    congrArg RecordOptions.name h.options
  have hrule : p.rule? = o.rule? := congrArg RecordOptions.rule h.options
  rw [Outline.schema, Outline.schema, hname, hrule, h.name, FieldOutline.entries_of_same h.fields]

theorem derive_of_same (h : o.Same p) (ho : o.derive = .ok schema) : p.derive = .ok schema := by
  obtain ⟨haccepted, rfl⟩ := derive_eq_ok_iff.mp ho
  refine derive_eq_ok_iff.mpr ⟨?_, (schema_of_same h).symm⟩
  exact {
    form := h.form.trans haccepted.form
    plain := h.isGeneric.trans haccepted.plain
    attributes := h.wellFormed haccepted.attributes
    fields := FieldOutline.wellFormed_of_same h.fields haccepted.fields }

end Outline

/-! ## Declarations written in another way -/

/-- The attributes of the field are written in another way. -/
structure FieldDeclaration.Rearranged (f g : FieldDeclaration) : Prop where
  name : g.name = f.name
  type : g.type = f.type
  attributes :
    Attribute.Rearranged FieldOptions.names AttributeOption.IdleOnField f.attributes g.attributes

/-- The attributes of the declaration and of its fields are written in another way. -/
structure Declaration.Rearranged (d e : Declaration) : Prop where
  form : e.form = d.form
  name : e.name = d.name
  parameters : e.parameters = d.parameters
  attributes :
    Attribute.Rearranged RecordOptions.names AttributeOption.IdleOnRecord d.attributes e.attributes
  fields : List.Forall₂ FieldDeclaration.Rearranged d.fields e.fields

theorem FieldDeclaration.outline?_eq_some_iff {f : FieldDeclaration} {o : FieldOutline} :
    f.outline? = some o ↔ f.attributes.all Attribute.isWritten = true ∧
      fieldName? f.name = some o.name ∧ typeText? f.type = some o.type ∧
      Attribute.outlines f.attributes = o.attributes := by
  obtain ⟨name, type, attributes⟩ := o
  unfold outline?
  cases f.attributes.all Attribute.isWritten <;> cases fieldName? f.name <;>
    cases typeText? f.type <;> simp [guard]

theorem FieldDeclaration.names_of_outline? (f : FieldDeclaration) {o : FieldOutline}
    (h : f.outline? = some o) : NamesField f.name o.name :=
  fieldName?_eq_some (outline?_eq_some_iff.mp h).2.1

theorem FieldDeclaration.spells_of_outline? (f : FieldDeclaration) {o : FieldOutline}
    (h : f.outline? = some o) : SpellsType f.type o.type :=
  typeText?_eq_some (outline?_eq_some_iff.mp h).2.2.1

theorem FieldDeclaration.outline?_of_rearranged {f g : FieldDeclaration} (h : f.Rearranged g)
    {o : FieldOutline} (ho : f.outline? = some o) :
    ∃ p, g.outline? = some p ∧ o.Same p := by
  obtain ⟨hwritten, hname, htype, hattributes⟩ := outline?_eq_some_iff.mp ho
  obtain ⟨hsame, halike⟩ :=
    Attribute.alike_of_rearranged (fun _ => FieldOptions.textFor_of_ignored)
      (fun _ => FieldOptions.ignored_of_idle) h.attributes
  refine ⟨⟨o.name, o.type, Attribute.outlines g.attributes⟩, ?_, rfl, rfl, ?_, ?_⟩
  · rw [outline?_eq_some_iff, ← hsame, h.name, h.type]
    exact ⟨hwritten, hname, htype, rfl⟩
  · rw [FieldOutline.given, FieldOutline.given, ← hattributes]
    exact (FieldOptions.ofGiven_of_alike halike).symm
  · rw [← hattributes]
    exact halike.wellFormed fun _ => FieldOptions.allowed_of_ignored

theorem FieldDeclaration.outlines_of_rearranged {fs gs : List FieldDeclaration}
    (h : List.Forall₂ Rearranged fs gs) {os : List FieldOutline}
    (hos : List.Forall₂ (fun f o => f.outline? = some o) fs os) :
    ∃ ps, List.Forall₂ (fun g p => g.outline? = some p) gs ps ∧
      List.Forall₂ FieldOutline.Same os ps := by
  induction h generalizing os with
  | nil =>
    cases hos
    exact ⟨[], .nil, .nil⟩
  | cons hfg _ ih =>
    cases hos with
    | cons ho hos =>
      obtain ⟨p, hp, hsame⟩ := outline?_of_rearranged hfg ho
      obtain ⟨ps, hps, hall⟩ := ih hos
      exact ⟨p :: ps, .cons hp hps, .cons hsame hall⟩

namespace Declaration

variable {d e : Declaration}

theorem outline_eq_ok_iff {o : Outline} :
    d.outline = .ok o ↔ d.attributes.all Attribute.isWritten = true ∧
      d.header? = some (o.name, o.isGeneric) ∧ d.fieldOutlines? = some o.fields ∧
      d.form = o.form ∧ Attribute.outlines d.attributes = o.attributes := by
  obtain ⟨form, name, isGeneric, attributes, fields⟩ := o
  unfold outline
  cases d.attributes.all Attribute.isWritten <;> rcases d.header? with _ | ⟨_, _⟩ <;>
    cases d.fieldOutlines? <;> simp [guard, and_comm, and_assoc, and_left_comm]

/-- The fields of a record are outlined one by one. -/
theorem forall₂_outline? {o : Outline} (ho : d.outline = .ok o) (hform : o.form = .record) :
    List.Forall₂ (fun f g => f.outline? = some g) d.fields o.fields := by
  obtain ⟨-, -, hfields, hsame, -⟩ := outline_eq_ok_iff.mp ho
  rw [fieldOutlines?, hsame, hform] at hfields
  exact mapM_eq_some_iff.mp hfields

theorem outline_of_rearranged (h : d.Rearranged e) {o : Outline} (ho : d.outline = .ok o)
    (hrecord : o.form = .record) : ∃ p, e.outline = .ok p ∧ o.Same p := by
  obtain ⟨hwritten, hheader, -, hform, hattributes⟩ := outline_eq_ok_iff.mp ho
  obtain ⟨hsame, halike⟩ :=
    Attribute.alike_of_rearranged (fun _ => RecordOptions.textFor_of_ignored)
      (fun _ => RecordOptions.ignored_of_idle) h.attributes
  obtain ⟨fields, hfields, hsameFields⟩ :=
    FieldDeclaration.outlines_of_rearranged h.fields (forall₂_outline? ho hrecord)
  have hheader' : e.header? = d.header? := by
    rw [header?, header?, h.form, h.name, h.parameters]
  have hfields' : e.fieldOutlines? = some fields := by
    rw [fieldOutlines?, h.form, hform, hrecord]
    exact mapM_eq_some_iff.mpr hfields
  refine ⟨⟨o.form, o.name, o.isGeneric, Attribute.outlines e.attributes, fields⟩, ?_, rfl, rfl,
    rfl, ?_, ?_, hsameFields⟩
  · rw [outline_eq_ok_iff, ← hsame, hheader', h.form]
    exact ⟨hwritten, hheader, hfields', hform, rfl⟩
  · rw [Outline.given, Outline.given, ← hattributes]
    exact (RecordOptions.ofGiven_of_alike halike).symm
  · rw [← hattributes]
    exact halike.wellFormed fun _ => RecordOptions.allowed_of_ignored

/-- The schema of a record is called as its attributes for filters say, or else as the record, whose
name is the first word of the declaration.  The fields are those of the record in their order,
without the ones that an attribute skips, each with its type as the declaration spells it.  A field
goes by the name given for filters, else by the one given for storage, else by what the naming rule
makes of its own name, else by that name, which stands in the declaration with or without a mark.

Once the schema is built, each name stands where it came first and has the type that came last.

Attributes may be split and merged and options of storage that nobody asks for may be added and
left out, and where no name is given twice the order may be changed: the schema is the same. -/
theorem derive_precedence {schema : DerivedSchema} (h : d.derive = .ok schema) :
    (∃ o rule, d.outline = .ok o ∧ o.form = .record ∧ d.StartsWithName o.name ∧
      List.Forall₂ (fun f g => FieldDeclaration.outline? f = some g ∧
        NamesField f.name g.name ∧ SpellsType f.type g.type) d.fields o.fields ∧
      (lastText .storage "rename_all" o.given).map NamingRule.read = rule.map .ok ∧
      schema.name = (lastText .filter "rename" o.given).getD o.name ∧
      schema.fields =
        (o.fields.filter fun f => !f.isSkipped).map fun f => (f.nameBy rule, f.type)) ∧
    (∀ (ι : Type) (typeOf : String → FieldType ι),
      (schema.toSchema typeOf).name = schema.name ∧
      (schema.toSchema typeOf).fields.map Prod.fst = (schema.fields.map Prod.fst).eraseDups ∧
      ((schema.toSchema typeOf).fields.map Prod.fst).Nodup ∧
      ∀ name, (schema.toSchema typeOf).field? name =
        (schema.fields.filter fun field => field.1 = name).getLast?.map fun field =>
          typeOf field.2) ∧
    ∀ e, d.Rearranged e → e.derive = .ok schema := by
  obtain ⟨o, ho, hderive⟩ := bind_eq_ok_iff.mp h
  obtain ⟨haccepted, hschema⟩ := Outline.derive_eq_ok_iff.mp hderive
  have hheader := (outline_eq_ok_iff.mp ho).2.1
  have hfields : List.Forall₂ (fun f g => FieldDeclaration.outline? f = some g ∧
      NamesField f.name g.name ∧ SpellsType f.type g.type) d.fields o.fields :=
    (forall₂_outline? ho haccepted.form).imp fun f g hg =>
      ⟨hg, f.names_of_outline? hg, f.spells_of_outline? hg⟩
  refine ⟨⟨o, o.rule?, ho, haccepted.form, header?_eq_some hheader, hfields,
    Outline.map_read_lastText haccepted, ?_, ?_⟩,
    fun ι typeOf => ⟨?_, ?_, ?_, fun name => ?_⟩, fun e he => ?_⟩
  · rw [hschema]
    rfl
  · rw [hschema]
    rfl
  · exact Schema.name_ofFields _ _
  · exact schema.map_fst_toSchema typeOf
  · rw [schema.map_fst_toSchema typeOf]
    exact nodup_eraseDups _
  · exact schema.field?_toSchema typeOf name
  · obtain ⟨p, hp, hsame⟩ := outline_of_rearranged he ho haccepted.form
    exact bind_eq_ok_iff.mpr ⟨p, hp, Outline.derive_of_same hsame hderive⟩

/-- The fields of a stay, with attributes of both families and two fields for one name. -/
def stayFields : List FieldDeclaration :=
  [⟨"pub check_in", "i32", []⟩,
    ⟨"r#type", "Option < Kind >",
      [⟨"filter", .options [.text "rename" "kind"]⟩,
        ⟨"serde", .options [.text "rename" "roomKind"]⟩]⟩,
    ⟨"kind", "String", [⟨"serde", .options [.nested "rename" [.text "serialize" "k"]]⟩]⟩,
    ⟨"cache", "String", [⟨"serde", .options [.flag "skip"]⟩]⟩]

/-- A stay, which filters know by another name. -/
def stay : Declaration where
  form := .record
  name := "Booking"
  parameters := ""
  attributes :=
    [⟨"serde", .options [.text "rename_all" "camelCase", .flag "deny_unknown_fields"]⟩,
      ⟨"filter", .options [.text "rename" "Stay"]⟩]
  fields := stayFields

/-- A stay with a marked name, which no attribute changes. -/
def markedStay : Declaration := { stay with name := "r#Booking", attributes := [] }

/-- An option with lists inside a list. -/
def bound : AttributeOption :=
  .nested "bound" [.text "serialize" "T", .nested "inner" [.code "depth" "5", .flag "deep"]]

/-- The same stay, written in another way. -/
def stayRearranged : Declaration where
  form := .record
  name := "Booking"
  parameters := ""
  attributes :=
    [⟨"filter", .options [.text "rename" "Stay"]⟩,
      ⟨"serde", .options [bound]⟩,
      ⟨"serde", .options [.text "rename_all" "camelCase"]⟩]
  fields :=
    [⟨"pub check_in", "i32", []⟩,
      ⟨"r#type", "Option < Kind >",
        [⟨"serde", .options [.text "rename" "roomKind"]⟩,
          ⟨"filter", .options [.text "rename" "kind"]⟩]⟩,
      ⟨"kind", "String", [⟨"serde", .options [.nested "rename" [.text "serialize" "k"]]⟩]⟩,
      ⟨"cache", "String", [⟨"serde", .options [.flag "skip"]⟩]⟩]

theorem isPath_of_word {text : String}
    (h : Code.Token.readAll? text = some [.word text false]) : IsPath text :=
  .plain h (.last text false)

theorem bound_plain : bound.Plain := by
  have hdepth : AttributeOption.Plain (.code "depth" "5") :=
    .code (isPath_of_word rfl) ⟨_, _, rfl, rfl, rfl⟩
  have hdeep : AttributeOption.Plain (.flag "deep") := .flag (isPath_of_word rfl)
  have hinner : AttributeOption.Plain (.nested "inner" [.code "depth" "5", .flag "deep"]) :=
    .nested (isPath_of_word rfl) (List.cons_ne_nil _ _) (by simp [hdepth, hdeep])
  have htext : AttributeOption.Plain (.text "serialize" "T") := .text (isPath_of_word rfl) "T"
  exact .nested (isPath_of_word rfl) (List.cons_ne_nil _ _) (by simp [htext, hinner])

/-- The attributes of the stay, with the naming rule in one of its own. -/
def splitAttributes (options : List AttributeOption) : List Attribute :=
  [⟨"serde", .options [.text "rename_all" "camelCase"]⟩,
    ⟨"serde", .options options⟩,
    ⟨"filter", .options [.text "rename" "Stay"]⟩]

theorem stay_attributes :
    Attribute.Rearranged RecordOptions.names AttributeOption.IdleOnRecord stay.attributes
      stayRearranged.attributes := by
  have hrule : AttributeOption.Plain (.text "rename_all" "camelCase") :=
    .text (isPath_of_word rfl) "camelCase"
  have hdeny : AttributeOption.IdleOnRecord (.flag "deny_unknown_fields") :=
    ⟨.flag (isPath_of_word rfl), by decide +kernel⟩
  have hbound : bound.IdleOnRecord := ⟨bound_plain, by decide +kernel⟩
  have hsplit : Attribute.Step RecordOptions.names AttributeOption.IdleOnRecord stay.attributes
      (splitAttributes [.flag "deny_unknown_fields"]) :=
    .split (List.forall_mem_singleton.mpr hrule.isWhole)
  have hserde : Attribute.IsStorage "serde" := rfl
  have hadd {o : AttributeOption} (ho : o.IdleOnRecord) :
      Attribute.Step RecordOptions.names AttributeOption.IdleOnRecord (splitAttributes [])
        (splitAttributes [o]) :=
    .behind _ (.idle hserde (List.forall_mem_nil _) ho)
  have hreorder : Attribute.Step RecordOptions.names AttributeOption.IdleOnRecord
      (splitAttributes [bound]) stayRearranged.attributes :=
    .reorder (List.reverse_perm stayRearranged.attributes) (by decide +kernel)
  -- one option is taken away and another one added, and the order changes
  exact .trans _ _ _ (.rel _ _ hsplit) (.trans _ _ _ (.symm _ _ (.rel _ _ (hadd hdeny)))
    (.trans _ _ _ (.rel _ _ (hadd hbound)) (.rel _ _ hreorder)))

theorem stay_rearranged : stay.Rearranged stayRearranged where
  form := rfl
  name := rfl
  parameters := rfl
  attributes := stay_attributes
  fields := .cons ⟨rfl, rfl, .refl _⟩ (.cons ⟨rfl, rfl, .rel _ _ (.reorder (.swap _ _ _)
    (by decide +kernel))⟩ (.cons ⟨rfl, rfl, .refl _⟩ (.cons ⟨rfl, rfl, .refl _⟩ .nil)))

theorem derive_precedence_stay :
    (∃ schema, markedStay.derive = .ok schema ∧
      schema = ⟨"Booking", [("check_in", "i32"), ("kind", "Option<Kind>"), ("kind", "String")]⟩ ∧
      (schema.toSchema (ι := Empty) .unsupported).field? "kind" = some (.unsupported "String") ∧
      ∃ o, markedStay.outline = .ok o ∧ markedStay.StartsWithName o.name) ∧
    ∃ schema, stay.derive = .ok schema ∧
      schema = ⟨"Stay", [("checkIn", "i32"), ("kind", "Option<Kind>"), ("kind", "String")]⟩ ∧
      stay.Rearranged stayRearranged ∧ stayRearranged.derive = .ok schema := by
  have hmarked : markedStay.derive =
      .ok ⟨"Booking", [("check_in", "i32"), ("kind", "Option<Kind>"), ("kind", "String")]⟩ := by
    decide +kernel
  have hstay : stay.derive =
      .ok ⟨"Stay", [("checkIn", "i32"), ("kind", "Option<Kind>"), ("kind", "String")]⟩ := by
    decide +kernel
  obtain ⟨⟨o, -, ho, -, hname, -⟩, htypes, -⟩ := derive_precedence hmarked
  obtain ⟨-, -, -, hfield⟩ := htypes Empty .unsupported
  obtain ⟨-, -, hsame⟩ := derive_precedence hstay
  refine ⟨⟨_, hmarked, rfl, ?_, o, ho, hname⟩,
    ⟨_, hstay, rfl, stay_rearranged, hsame _ stay_rearranged⟩⟩
  rw [hfield]
  simp

end Declaration
end Sift
