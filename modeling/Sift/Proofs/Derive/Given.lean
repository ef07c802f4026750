import Sift.Derive.Schema
import Sift.Proofs.FirstSeen
import Sift.Proofs.Outcome

/-!
# What the attributes give

The attributes of a declaration or of a field come down to their settings in order
(`SettingsAttribute.given`).  An option is the last text given for it, and a field is skipped if one
of the settings says so (`RecordOptions.read_eq_ok_iff`, `FieldOptions.read_eq_ok_iff`).  All other
settings are checked and left alone.
-/

namespace Sift

/-! ## Settings in order -/

namespace SettingsAttribute

/-- The settings of the attributes in order, each with its family. -/
def given (attributes : List SettingsAttribute) : List (AttributeFamily × Setting) :=
  attributes.flatMap fun a => (a.settings.elim [] Settings.settings).map (a.family, ·)

/-- Each of the attributes lists settings, and nothing else. -/
def Listed (attributes : List SettingsAttribute) : Prop :=
  ∀ a ∈ attributes, ∃ listed, a.settings = some listed ∧ listed.isComplete = true

/-- The attributes list settings that are allowed, and nothing else. -/
def WellFormed (Allowed : AttributeFamily × Setting → Prop) (attributes : List SettingsAttribute) :
    Prop :=
  Listed attributes ∧ ∀ g ∈ given attributes, Allowed g

variable {σ : Type} {step : AttributeFamily → σ → Setting → Except DeriveFault σ}

theorem foldSettings_eq_ok_iff {attributes : List SettingsAttribute} {start s : σ} :
    foldSettings step start attributes = .ok s ↔
      Listed attributes ∧ (given attributes).foldlM (fun s g => step g.1 s g.2) start = .ok s := by
  unfold foldSettings
  induction attributes generalizing start with
  | nil => simp [Listed, given]
  | cons a attributes ih =>
    have hgiven : given (a :: attributes) =
        (a.settings.elim [] Settings.settings).map (a.family, ·) ++ given attributes := rfl
    rw [Listed, List.forall_mem_cons, ← Listed, hgiven, List.foldlM_append, List.foldlM_map,
      List.foldlM_cons]
    cases ha : a.settings with
    | none => simp [bind, Except.bind]
    | some listed =>
      constructor
      · intro h
        obtain ⟨t, ht, hrest⟩ := bind_eq_ok_iff.mp h
        obtain ⟨u, hu, ht⟩ := bind_eq_ok_iff.mp ht
        split at ht
        · rename_i hcomplete
          obtain rfl := Except.ok.inj ht
          obtain ⟨hlisted, hfold⟩ := ih.mp hrest
          exact ⟨⟨⟨listed, rfl, hcomplete⟩, hlisted⟩, bind_eq_ok_iff.mpr ⟨u, hu, hfold⟩⟩
        · cases ht
      · rintro ⟨⟨⟨_, hsome, hcomplete⟩, hlisted⟩, hfold⟩
        obtain rfl := Option.some.inj hsome
        obtain ⟨u, hu, hfold⟩ := bind_eq_ok_iff.mp hfold
        refine bind_eq_ok_iff.mpr ⟨u, bind_eq_ok_iff.mpr ⟨u, hu, ?_⟩, ih.mpr ⟨hlisted, hfold⟩⟩
        rw [if_pos hcomplete]
        rfl

end SettingsAttribute

/-! ## Texts that are given -/

/-- The text that is the whole value of a setting. -/
def Setting.text? (s : Setting) : Option String :=
  match s.content with
  | .text value .whole => some value
  | _ => none

/-- The text of a setting, if it is one of the family and has the name. -/
def textFor (family : AttributeFamily) (name : String) (g : AttributeFamily × Setting) :
    Option String :=
  if g.1 = family ∧ g.2.name = some name then g.2.text? else none

/-- The last text that is given under a name in a family. -/
def lastText (family : AttributeFamily) (name : String)
    (given : List (AttributeFamily × Setting)) : Option String :=
  (given.filterMap (textFor family name)).getLast?

theorem lastText_append (family : AttributeFamily) (name : String)
    (given given' : List (AttributeFamily × Setting)) :
    lastText family name (given ++ given') =
      (lastText family name given').or (lastText family name given) := by
  rw [lastText, List.filterMap_append, List.getLast?_append]
  rfl

theorem lastText_single (family : AttributeFamily) (name : String)
    (g : AttributeFamily × Setting) : lastText family name [g] = textFor family name g := by
  rw [lastText, List.filterMap_cons, List.filterMap_nil]
  cases textFor family name g <;> rfl

theorem exists_of_lastText {family : AttributeFamily} {name text : String}
    {given : List (AttributeFamily × Setting)} (h : lastText family name given = some text) :
    ∃ g ∈ given, textFor family name g = some text :=
  List.mem_filterMap.mp (List.mem_of_getLast? h)

namespace Setting

variable {s : Setting}

theorem value_eq : s.value = s.text?.elim (.error .illFormed) .ok := by
  obtain ⟨name, content⟩ := s
  cases content with
  | text t ending => cases ending <;> rfl
  | _ => rfl

theorem rule_eq_ok_iff {rule : NamingRule} :
    s.rule = .ok rule ↔ ∃ text, s.text? = some text ∧ NamingRule.read text = .ok rule := by
  obtain ⟨name, content⟩ := s
  cases content with
  | text t ending =>
    cases ending <;> cases h : NamingRule.read t <;>
      simp [Setting.rule, text?, h, bind, Except.bind, pure, Except.pure, throw, throwThe,
        MonadExceptOf.throw]
  | _ => simp [Setting.rule, text?]

theorem bare_eq_ok_iff : s.bare = .ok () ↔ s.content = .bare := by
  obtain ⟨name, content⟩ := s
  cases content <;> simp [Setting.bare]

theorem ignored_eq_ok_iff : s.ignored = .ok () ↔ s.isReadable = true := by
  unfold ignored
  split <;> simp [*]

theorem text?_of_hasValue (h : s.hasValue = false) : s.text? = none := by
  obtain ⟨name, content⟩ := s
  cases content with
  | text t ending => cases h
  | _ => rfl

end Setting

/-- The setting gives a value for a name in a family. -/
def GivesValue (family : AttributeFamily) (name : String) (g : AttributeFamily × Setting) : Prop :=
  g.1 = family ∧ g.2.name = some name ∧ g.2.hasValue = true

instance {family : AttributeFamily} {name : String} : DecidablePred (GivesValue family name) :=
  fun _ => inferInstanceAs (Decidable (_ ∧ _ ∧ _))

section Text

variable {family other : AttributeFamily} {name : String} {s : Setting}

theorem textFor_of_name (h : s.name = some name) : textFor family name (family, s) = s.text? :=
  if_pos ⟨rfl, h⟩

theorem textFor_of_family (h : other ≠ family) : textFor family name (other, s) = none :=
  if_neg fun hboth => h hboth.1

theorem textFor_of_no_value {g : AttributeFamily × Setting} (h : ¬ GivesValue family name g) :
    textFor family name g = none := by
  unfold textFor
  split
  · rename_i hname
    exact g.2.text?_of_hasValue (Bool.eq_false_iff.mpr fun hvalue => h ⟨hname.1, hname.2, hvalue⟩)
  · rfl

end Text

/-! ## Options of a declaration -/

namespace RecordOptions

/-- What a setting has to be to be taken or passed over. -/
def Allowed (g : AttributeFamily × Setting) : Prop :=
  match g.1 with
  | .storage =>
    if GivesValue .storage "rename_all" g then ∃ rule, g.2.rule = .ok rule
    else g.2.isReadable = true
  | .filter => g.2.name = some "rename" ∧ g.2.text?.isSome = true

/-- The naming rule of a name. -/
def ruleNamed (name : String) : Option NamingRule := (NamingRule.read name).toOption

/-- The options with what a setting gives. -/
def updated (o : RecordOptions) (g : AttributeFamily × Setting) : RecordOptions where
  name := (textFor .filter "rename" g).or o.name
  rule := (textFor .storage "rename_all" g).elim o.rule ruleNamed

theorem set_eq_ok_iff (o : RecordOptions) (g : AttributeFamily × Setting) (o' : RecordOptions) :
    set g.1 o g.2 = .ok o' ↔ Allowed g ∧ o' = o.updated g := by
  obtain ⟨family, s⟩ := g
  cases family with
  | storage =>
    have hname : textFor .filter "rename" (.storage, s) = Option.none :=
      textFor_of_family nofun
    by_cases hgives : GivesValue .storage "rename_all" (.storage, s)
    · have htext : textFor .storage "rename_all" (.storage, s) = s.text? :=
        textFor_of_name hgives.2.1
      simp only [set, if_pos hgives.2, Allowed, if_pos hgives, updated, hname, htext]
      cases hrule : s.rule with
      | error e => simp [bind, Except.bind]
      | ok rule =>
        obtain ⟨text, htext, hread⟩ := Setting.rule_eq_ok_iff.mp hrule
        simp [htext, ruleNamed, hread, bind, Except.bind, pure, Except.pure, Except.toOption,
          eq_comm]
    · have hother : ¬ (s.name = some "rename_all" ∧ s.hasValue = true) :=
        fun h => hgives ⟨rfl, h⟩
      simp only [set, if_neg hother, Allowed, if_neg hgives, updated, hname,
        textFor_of_no_value hgives, Option.none_or, Option.elim_none, ← Setting.ignored_eq_ok_iff]
      exact check_eq_ok_iff
  | filter =>
    have hrule : textFor .storage "rename_all" (.filter, s) = Option.none :=
      textFor_of_family nofun
    by_cases hname : s.name = some "rename"
    · simp only [set, if_pos hname, Allowed, updated, hrule, textFor_of_name hname,
        Setting.value_eq]
      cases s.text? <;> simp [hname, bind, Except.bind, pure, Except.pure, eq_comm]
    · simp [set, Allowed, hname]

/-- A text that is allowed for a rule is the name of one. -/
theorem exists_rule_of_allowed {g : AttributeFamily × Setting} {text : String} (h : Allowed g)
    (htext : textFor .storage "rename_all" g = some text) :
    ∃ rule, NamingRule.read text = .ok rule := by
  by_cases hgives : GivesValue .storage "rename_all" g
  · obtain ⟨family, s⟩ := g
    obtain rfl : family = .storage := hgives.1
    rw [textFor_of_name hgives.2.1] at htext
    simp only [Allowed, if_pos hgives] at h
    obtain ⟨rule, hrule⟩ := h
    obtain ⟨text', htext', hread⟩ := Setting.rule_eq_ok_iff.mp hrule
    obtain rfl := Option.some.inj (htext.symm.trans htext')
    exact ⟨rule, hread⟩
  · rw [textFor_of_no_value hgives] at htext
    cases htext

/-- The options that settings give: the last name in filters, and the last rule of storage. -/
def ofGiven (given : List (AttributeFamily × Setting)) : RecordOptions where
  name := lastText .filter "rename" given
  rule := (lastText .storage "rename_all" given).bind ruleNamed

theorem foldl_updated (given : List (AttributeFamily × Setting)) :
    given.foldl updated none = ofGiven given := by
  induction given using List.reverseRecOn with
  | nil => rfl
  | append_singleton given g ih =>
    rw [List.foldl_concat, ih]
    simp only [updated, ofGiven, lastText_append, lastText_single]
    cases textFor .storage "rename_all" g <;> rfl

theorem read_eq_ok_iff {attributes : List SettingsAttribute} {o : RecordOptions} :
    read attributes = .ok o ↔
      SettingsAttribute.WellFormed Allowed attributes ∧
        o = ofGiven (SettingsAttribute.given attributes) := by
  rw [read, SettingsAttribute.foldSettings_eq_ok_iff, foldlM_eq_ok_iff set_eq_ok_iff,
    foldl_updated, SettingsAttribute.WellFormed, and_assoc]

end RecordOptions

/-! ## Options of a field -/

namespace FieldOptions

/-- The option that leaves a field out. -/
def skipped : Setting := ⟨some "skip", .bare⟩

/-- What a setting has to be to be taken or passed over. -/
def Allowed (g : AttributeFamily × Setting) : Prop :=
  match g.1 with
  | .storage =>
    if GivesValue .storage "rename" g then g.2.text?.isSome = true
    else if g.2.name = some "skip" then g.2 = skipped
    else g.2.isReadable = true
  | .filter => g.2.name = some "rename" ∧ g.2.text?.isSome = true ∨ g.2 = skipped

/-- The options with what a setting gives. -/
def updated (o : FieldOptions) (g : AttributeFamily × Setting) : FieldOptions where
  storedAs := (textFor .storage "rename" g).or o.storedAs
  filteredAs := (textFor .filter "rename" g).or o.filteredAs
  skip := o.skip || g.2 = skipped

theorem set_eq_ok_iff (o : FieldOptions) (g : AttributeFamily × Setting) (o' : FieldOptions) :
    set g.1 o g.2 = .ok o' ↔ Allowed g ∧ o' = o.updated g := by
  obtain ⟨family, s⟩ := g
  have hskips (h : s.name = some "skip") : s = skipped ↔ s.bare = .ok () := by
    rw [Setting.bare_eq_ok_iff]
    obtain ⟨name, content⟩ := s
    obtain rfl := h
    simp [skipped]
  have hnot (h : s.name ≠ some "skip") : s ≠ skipped := fun hs => h (congrArg Setting.name hs)
  cases family with
  | storage =>
    have hfilter : textFor .filter "rename" (.storage, s) = Option.none :=
      textFor_of_family nofun
    by_cases hgives : GivesValue .storage "rename" (.storage, s)
    · have hne : s ≠ skipped := hnot fun h => nomatch (hgives.2.1.symm.trans h)
      simp only [set, if_pos hgives.2, Allowed, if_pos hgives, updated, hfilter,
        textFor_of_name hgives.2.1, Setting.value_eq, hne]
      cases s.text? <;> simp [bind, Except.bind, pure, Except.pure, eq_comm]
    · have hother : ¬ (s.name = some "rename" ∧ s.hasValue = true) := fun h => hgives ⟨rfl, h⟩
      simp only [set, if_neg hother, Allowed, if_neg hgives, updated, hfilter,
        textFor_of_no_value hgives, Option.none_or]
      by_cases hskip : s.name = some "skip"
      · simp only [if_pos hskip, hskips hskip]
        refine check_eq_ok_iff.trans (and_congr_right fun hbare => ?_)
        rw [decide_eq_true hbare, Bool.or_true]
      · simp only [if_neg hskip, hnot hskip, decide_false, Bool.or_false,
          ← Setting.ignored_eq_ok_iff]
        exact check_eq_ok_iff
  | filter =>
    have hstored : textFor .storage "rename" (.filter, s) = Option.none :=
      textFor_of_family nofun
    by_cases hname : s.name = some "rename"
    · have hne : s ≠ skipped := hnot fun h => nomatch (hname.symm.trans h)
      simp only [set, if_pos hname, Allowed, updated, hstored, textFor_of_name hname,
        Setting.value_eq, hne]
      cases s.text? <;> simp [hname, bind, Except.bind, pure, Except.pure, eq_comm]
    · have htext : textFor .filter "rename" (.filter, s) = Option.none :=
        if_neg fun h => hname h.2
      by_cases hskip : s.name = some "skip"
      · simp only [set, if_pos hskip, Allowed, updated, hstored, htext, hname, hskips hskip,
          Option.none_or, false_and, false_or, if_false]
        refine check_eq_ok_iff.trans (and_congr_right fun hbare => ?_)
        rw [decide_eq_true hbare, Bool.or_true]
      · simp [set, Allowed, hname, hskip, hnot hskip]

/-- The options that settings give: the last names, and whether one of them says to skip. -/
def ofGiven (given : List (AttributeFamily × Setting)) : FieldOptions where
  storedAs := lastText .storage "rename" given
  filteredAs := lastText .filter "rename" given
  skip := given.any fun g => g.2 = skipped

theorem foldl_updated (given : List (AttributeFamily × Setting)) :
    given.foldl updated none = ofGiven given := by
  induction given using List.reverseRecOn with
  | nil => rfl
  | append_singleton given g ih =>
    rw [List.foldl_concat, ih]
    simp only [updated, ofGiven, lastText_append, lastText_single, List.any_append,
      List.any_cons, List.any_nil, Bool.or_false]

theorem read_eq_ok_iff {attributes : List SettingsAttribute} {o : FieldOptions} :
    read attributes = .ok o ↔
      SettingsAttribute.WellFormed Allowed attributes ∧
        o = ofGiven (SettingsAttribute.given attributes) := by
  rw [read, SettingsAttribute.foldSettings_eq_ok_iff, foldlM_eq_ok_iff set_eq_ok_iff,
    foldl_updated, SettingsAttribute.WellFormed, and_assoc]

end FieldOptions

/-! ## Schemas -/

namespace FieldOutline

/-- The settings of the field. -/
def given (f : FieldOutline) : List (AttributeFamily × Setting) :=
  SettingsAttribute.given f.attributes

/-- One of the settings says to skip the field. -/
def isSkipped (f : FieldOutline) : Bool := f.given.any fun g => g.2 = FieldOptions.skipped

/-- The name given for filters, or else the one given for storage, or else what the rule makes of
the name of the field, or else that name. -/
def nameBy (rule : Option NamingRule) (f : FieldOutline) : String :=
  ((lastText .filter "rename" f.given).or (lastText .storage "rename" f.given)).getD
    (rule.elim f.name fun rule => rule.apply f.name)

end FieldOutline

namespace Outline

/-- The settings of the declaration. -/
def given (o : Outline) : List (AttributeFamily × Setting) :=
  SettingsAttribute.given o.attributes

/-- The rule is the one that was named last. -/
def rule? (o : Outline) : Option NamingRule :=
  (lastText .storage "rename_all" o.given).bind RecordOptions.ruleNamed

/-- What the settings make of the outline. -/
def schema (o : Outline) : DerivedSchema where
  name := (lastText .filter "rename" o.given).getD o.name
  fields := (o.fields.filter fun f => !f.isSkipped).map fun f => (f.nameBy o.rule?, f.type)

/-- There is a schema for the outline. -/
structure Accepted (o : Outline) : Prop where
  form : o.form = .record
  plain : o.isGeneric = false
  attributes : SettingsAttribute.WellFormed RecordOptions.Allowed o.attributes
  fields : ∀ f ∈ o.fields, SettingsAttribute.WellFormed FieldOptions.Allowed f.attributes

/-- What was named last is a rule. -/
theorem map_read_lastText {o : Outline} (h : o.Accepted) :
    (lastText .storage "rename_all" o.given).map NamingRule.read = o.rule?.map .ok := by
  rw [rule?]
  cases hlast : lastText .storage "rename_all" o.given with
  | none => rfl
  | some text =>
    obtain ⟨g, hg, htext⟩ := exists_of_lastText hlast
    obtain ⟨rule, hrule⟩ :=
      RecordOptions.exists_rule_of_allowed (h.attributes.2 g hg) htext
    simp [RecordOptions.ruleNamed, hrule, Except.toOption]

theorem checkForm_eq_ok_iff {o : Outline} :
    o.checkForm = .ok () ↔ o.form = .record ∧ o.isGeneric = false := by
  unfold checkForm
  cases o.isGeneric <;> cases o.form <;> simp

theorem fieldOptions_eq_ok_iff {o : Outline} {fields : List (FieldOutline × FieldOptions)} :
    o.fieldOptions = .ok fields ↔
      (∀ f ∈ o.fields, SettingsAttribute.WellFormed FieldOptions.Allowed f.attributes) ∧
        fields = o.fields.map fun f => (f, FieldOptions.ofGiven f.given) := by
  refine mapM_eq_ok_map_iff fun f field => ?_
  constructor
  · intro h
    obtain ⟨options, hread, h⟩ := bind_eq_ok_iff.mp h
    obtain ⟨hformed, rfl⟩ := FieldOptions.read_eq_ok_iff.mp hread
    exact ⟨hformed, (Except.ok.inj h).symm⟩
  · rintro ⟨hformed, rfl⟩
    exact bind_eq_ok_iff.mpr ⟨_, FieldOptions.read_eq_ok_iff.mpr ⟨hformed, rfl⟩, rfl⟩

theorem filterName_ofGiven (rule : Option NamingRule) (f : FieldOutline) :
    filterName rule f (FieldOptions.ofGiven f.given) = f.nameBy rule := by
  cases rule <;> rfl

/-- The schema by the options that are read. -/
theorem schema_eq (o : Outline) :
    o.schema = {
      name := (RecordOptions.ofGiven o.given).name.getD o.name
      fields := ((o.fields.map fun f => (f, FieldOptions.ofGiven f.given)).filter
        fun f => !f.2.skip).map fun f =>
          (filterName (RecordOptions.ofGiven o.given).rule f.1 f.2, f.1.type) } := by
  simp only [List.filter_map, List.map_map, Function.comp_def, filterName_ofGiven]
  rfl

theorem derive_eq_ok_iff {o : Outline} {schema : DerivedSchema} :
    o.derive = .ok schema ↔ o.Accepted ∧ schema = o.schema := by
  constructor
  · intro h
    obtain ⟨_, hform, h⟩ := bind_eq_ok_iff.mp h
    obtain ⟨options, hoptions, h⟩ := bind_eq_ok_iff.mp h
    obtain ⟨fields, hfields, h⟩ := bind_eq_ok_iff.mp h
    obtain ⟨hrecord, hplain⟩ := checkForm_eq_ok_iff.mp hform
    obtain ⟨hattributes, rfl⟩ := RecordOptions.read_eq_ok_iff.mp hoptions
    obtain ⟨hall, rfl⟩ := fieldOptions_eq_ok_iff.mp hfields
    exact ⟨⟨hrecord, hplain, hattributes, hall⟩, (Except.ok.inj h).symm.trans o.schema_eq.symm⟩
  · rintro ⟨⟨hrecord, hplain, hattributes, hall⟩, rfl⟩
    have hoptions := RecordOptions.read_eq_ok_iff.mpr ⟨hattributes, rfl⟩
    have hfields := fieldOptions_eq_ok_iff.mpr ⟨hall, rfl⟩
    refine bind_eq_ok_iff.mpr ⟨(), checkForm_eq_ok_iff.mpr ⟨hrecord, hplain⟩, ?_⟩
    refine bind_eq_ok_iff.mpr ⟨_, hoptions, bind_eq_ok_iff.mpr ⟨_, hfields, ?_⟩⟩
    exact congrArg Except.ok o.schema_eq.symm

end Outline
end Sift
