import Mathlib
import Sift.Derive.Schema
import Sift.Proofs.Outcome
import Sift.Proofs.Text.Split

/-!
# Names in filters and keys in storage

The name of a field is words with underscores between them, and `keyOfWords` says which key each rule
makes of the words.  `toList_storedKey` ties the rules of storage to it, and `joinWords_eq_iff` says
where the name that filters use in camel case is another one: it starts with a capital, and the key
never does.  `derive_storedKeys` puts both together for the schema of a declaration.
-/

namespace Sift
namespace NamingRule

/-- The first character in upper case. -/
def capitalized : List Char → List Char
  | [] => []
  | c :: cs => c.toUpper :: cs

/-- The key that a rule makes of the words of a name. -/
def keyOfWords (words : List (List Char)) : NamingRule → List Char
  | lower | snake => ['_'].intercalate words
  | upper | screamingSnake => (['_'].intercalate words).map Char.toUpper
  | kebab => ['-'].intercalate words
  | screamingKebab => (['-'].intercalate words).map Char.toUpper
  | pascal => words.flatMap capitalized
  | camel => uncapitalized (words.flatMap capitalized)

/-! ## Rules in words -/

theorem joinWords_eq_flatMap (cs : List Char) :
    joinWords true cs = (cs.splitOn '_').flatMap capitalized := by
  -- without a capital for the first word, it is the later words that are capitalized
  suffices h : ∀ (capital : Bool) word rest, cs.splitOn '_' = word :: rest →
      joinWords capital cs = (if capital then capitalized word else word) ++
        rest.flatMap capitalized by
    obtain ⟨word, rest, hwords⟩ := List.exists_cons_of_ne_nil (List.splitOn_ne_nil '_' cs)
    rw [h true word rest hwords, hwords, if_pos rfl, List.flatMap_cons]
  induction cs with
  | nil =>
    intro capital word rest hwords
    rw [List.splitOn_nil, List.cons.injEq] at hwords
    obtain ⟨rfl, rfl⟩ := hwords
    cases capital <;> rfl
  | cons c cs ih =>
    intro capital word rest hwords
    obtain ⟨next, others, hcs⟩ := List.exists_cons_of_ne_nil (List.splitOn_ne_nil '_' cs)
    rw [List.splitOn_cons_eq_if_modifyHead, hcs] at hwords
    by_cases hc : c = '_'
    · have hnil : [] = word ∧ next :: others = rest := by simpa [hc] using hwords
      obtain ⟨rfl, rfl⟩ := hnil
      have hrest := ih true next others hcs
      simp only [joinWords, hc, if_true, hrest, List.flatMap_cons]
      cases capital <;> rfl
    · have hcons : c :: next = word ∧ others = rest := by simpa [hc] using hwords
      obtain ⟨rfl, rfl⟩ := hcons
      have hrest := ih false next others hcs
      simp only [joinWords, hc, if_false, hrest]
      cases capital <;> rfl

theorem hyphenated_eq_intercalate (cs : List Char) :
    hyphenated cs = ['-'].intercalate (cs.splitOn '_') := by
  induction cs with
  | nil => rfl
  | cons c cs ih =>
    obtain ⟨next, others, hcs⟩ := List.exists_cons_of_ne_nil (List.splitOn_ne_nil '_' cs)
    rw [hcs] at ih
    rw [hyphenated, List.map_cons, ← hyphenated, ih, List.splitOn_cons_eq_if_modifyHead, hcs]
    by_cases hc : c = '_'
    · simp [hc, List.intercalate_cons_cons]
    · cases others <;> simp [hc, List.intercalate_cons_cons]

/-- The rules of storage say what to do with the words of a name. -/
theorem toList_storedKey (rule : NamingRule) (field : String) :
    (rule.storedKey field).toList = rule.keyOfWords (field.toList.splitOn '_') := by
  have hwords : ['_'].intercalate (field.toList.splitOn '_') = field.toList :=
    List.intercalate_splitOn '_'
  cases rule <;>
    simp only [storedKey, apply, applyToChars, keyOfWords, String.toList_ofList, hwords,
      hyphenated_eq_intercalate, joinWords_eq_flatMap]

/-! ## Camel case -/

/-- A capital stands first, or underscores with a letter behind them. -/
def startsHigh : List Char → Bool
  | [] => false
  | c :: cs => if c = '_' then (cs.dropWhile (· = '_')).head?.any Char.isAlpha else c.isUpper

theorem uncapitalized_eq_self_iff {c : Char} {cs : List Char} :
    c :: cs = uncapitalized (c :: cs) ↔ c.isUpper = false := by
  rw [uncapitalized, List.cons.injEq, and_iff_left rfl]
  constructor
  · intro h
    rw [h]
    exact Char.isUpper_toLower_eq_false c
  · intro h
    exact (Char.toLower_eq_of_not_isUpper (by simp [h])).symm

/-- Underscores in front of a name are no words. -/
theorem joinWords_dropWhile (cs : List Char) :
    joinWords true cs = joinWords true (cs.dropWhile (· = '_')) := by
  induction cs with
  | nil => rfl
  | cons c cs ih =>
    by_cases hc : c = '_'
    · simpa [joinWords, hc] using ih
    · simp [hc]

theorem joinWords_underscore (cs : List Char) :
    joinWords true cs = uncapitalized (joinWords true cs) ↔
      (cs.dropWhile (· = '_')).head?.any Char.isAlpha = false := by
  rw [joinWords_dropWhile]
  cases hcs : cs.dropWhile (· = '_') with
  | nil => simp [joinWords, uncapitalized]
  | cons c rest =>
    have hc : c ≠ '_' := by
      have hhead := List.head?_dropWhile_not (fun c => decide (c = '_')) cs
      simpa [hcs] using hhead
    simp only [joinWords, hc, if_false, if_true]
    rw [uncapitalized_eq_self_iff, Char.isUpper_toUpper_eq_isAlpha]
    simp

/-- The two ways to camel case agree on a name that does not start high. -/
theorem joinWords_eq_iff (cs : List Char) :
    joinWords false cs = uncapitalized (joinWords true cs) ↔ startsHigh cs = false := by
  cases cs with
  | nil => simp [joinWords, uncapitalized, startsHigh]
  | cons c cs =>
    by_cases hc : c = '_'
    · simpa [joinWords, startsHigh, hc] using joinWords_underscore cs
    · have hsame : c.toUpper.toLower = c.toLower := Char.toLower_toUpper_eq_toLower c
      have hself := @uncapitalized_eq_self_iff c (joinWords false cs)
      simpa [joinWords, startsHigh, hc, uncapitalized, hsame] using hself

theorem apply_eq_storedKey_iff {rule : NamingRule} {field : String} :
    rule.apply field = rule.storedKey field ↔
      ¬ (rule = camel ∧ startsHigh field.toList = true) := by
  cases rule with
  | camel => simp [apply, storedKey, applyToChars, String.ofList_inj, joinWords_eq_iff]
  | _ => simp [storedKey]

end NamingRule

/-! ## Names of derived schemas -/

/-- What a declaration says of its fields: the rule for their names, and the options of each. -/
def Declaration.described (d : Declaration) :
    Except DeriveFault (Option NamingRule × List (FieldOutline × FieldOptions)) := do
  let o ← d.outline
  let options ← RecordOptions.read o.attributes
  return (options.rule, ← o.fieldOptions)

namespace Outline

variable {rule : Option NamingRule} {field : FieldOutline} {options : FieldOptions}

/-- No key is given for the field, and camel case writes its name in another way than its key. -/
def Misnames (rule : Option NamingRule) (field : FieldOutline) (options : FieldOptions) : Prop :=
  options.storedAs = none ∧ rule = some .camel ∧ NamingRule.startsHigh field.name.toList = true

theorem filterName_eq_storedKey_iff (h : options.filteredAs = none) :
    filterName rule field options = storedKey rule field options ↔
      ¬ Misnames rule field options := by
  have hgiven : options.givenName = options.storedAs := by simp [FieldOptions.givenName, h]
  unfold filterName storedKey Misnames
  rw [hgiven]
  cases options.storedAs with
  | some key => simp
  | none =>
    cases rule with
    | none => simp
    | some rule => simpa using @NamingRule.apply_eq_storedKey_iff rule field.name

end Outline

namespace Declaration

/-- The fields of the schema are those that are not skipped, under their names in filters. -/
theorem fields_of_derive {d : Declaration} {schema : DerivedSchema}
    (h : d.derive = .ok schema) :
    ∃ rule fields, d.described = .ok (rule, fields) ∧
      schema.fields = (fields.filter fun f => !f.2.skip).map fun f =>
        (Outline.filterName rule f.1 f.2, f.1.type) := by
  obtain ⟨o, ho, h⟩ := bind_eq_ok_iff.mp h
  obtain ⟨_, _, h⟩ := bind_eq_ok_iff.mp h
  obtain ⟨options, hoptions, h⟩ := bind_eq_ok_iff.mp h
  obtain ⟨fields, hfields, h⟩ := bind_eq_ok_iff.mp h
  refine ⟨options.rule, fields, ?_, (congrArg DerivedSchema.fields (Except.ok.inj h)).symm⟩
  refine bind_eq_ok_iff.mpr ⟨o, ho, bind_eq_ok_iff.mpr ⟨options, hoptions, ?_⟩⟩
  exact bind_eq_ok_iff.mpr ⟨fields, hfields, rfl⟩

/-- A field that filters do not rename goes by the key that it is stored under, unless camel case is
asked for and its name starts with a capital, or with underscores and a letter behind them.  The key
is the one given for the field, or what the rule makes of the words of its name. -/
theorem derive_storedKeys {d : Declaration} {schema : DerivedSchema} (h : d.derive = .ok schema) :
    (∃ rule fields, d.described = .ok (rule, fields) ∧
      List.Forall₂ (fun (f : FieldOutline × FieldOptions) (field : String × String) =>
          field.2 = f.1.type ∧
          (f.2.filteredAs = none →
            (field.1 = Outline.storedKey rule f.1 f.2 ↔ ¬ Outline.Misnames rule f.1 f.2)))
        (fields.filter fun f => !f.2.skip) schema.fields) ∧
    ∀ (rule : NamingRule) (name : String),
      (rule.storedKey name).toList = rule.keyOfWords (name.toList.splitOn '_') := by
  obtain ⟨rule, fields, hdescribed, hfields⟩ := fields_of_derive h
  refine ⟨⟨rule, fields, hdescribed, ?_⟩, NamingRule.toList_storedKey⟩
  rw [hfields, List.forall₂_map_right_iff, List.forall₂_same]
  exact fun f _ => ⟨rfl, Outline.filterName_eq_storedKey_iff⟩

/-- A room whose fields are named in all ways. -/
def room : Declaration where
  form := .record
  name := "Room"
  parameters := ""
  attributes := [⟨"serde", .options [.text "rename_all" "camelCase"]⟩]
  fields :=
    [⟨"check_in", "i32", []⟩,
      ⟨"__floor", "i32", []⟩,
      ⟨"r#type", "String", [⟨"serde", .options [.text "rename" "kind"]⟩]⟩,
      ⟨"Rate", "f64", [⟨"filter", .options [.text "rename" "price"]⟩]⟩,
      ⟨"cache", "String", [⟨"serde", .options [.flag "skip"]⟩]⟩]

theorem derive_storedKeys_room :
    ∃ schema rule fields, room.derive = .ok schema ∧ room.described = .ok (rule, fields) ∧
      (fields.filter fun f => !f.2.skip).map (fun f => Outline.storedKey rule f.1 f.2) =
        ["checkIn", "floor", "kind", "rate"] ∧
      schema.fields.map Prod.fst = ["checkIn", "Floor", "kind", "price"] ∧
      List.Forall₂ (fun (f : FieldOutline × FieldOptions) (field : String × String) =>
          field.2 = f.1.type ∧
          (f.2.filteredAs = none →
            (field.1 = Outline.storedKey rule f.1 f.2 ↔ ¬ Outline.Misnames rule f.1 f.2)))
        (fields.filter fun f => !f.2.skip) schema.fields := by
  have hderive : room.derive.map (fun schema => schema.fields.map Prod.fst) =
      .ok ["checkIn", "Floor", "kind", "price"] := by
    decide +kernel
  have hkeys : room.described.map (fun (rule, fields) => (fields.filter fun f => !f.2.skip).map
      fun f => Outline.storedKey rule f.1 f.2) = .ok ["checkIn", "floor", "kind", "rate"] := by
    decide +kernel
  obtain ⟨schema, hschema, hnames⟩ := map_eq_ok_iff.mp hderive
  obtain ⟨⟨rule, fields, hdescribed, hall⟩, -⟩ := derive_storedKeys hschema
  rw [hdescribed] at hkeys
  exact ⟨schema, rule, fields, hschema, hdescribed, Except.ok.inj hkeys, hnames, hall⟩

def attic : Declaration := { room with fields := [⟨"_floor", "i32", []⟩] }

/-- A field may go by another name in filters than in storage. -/
theorem names_not_storedKeys :
    ¬ ∀ (d : Declaration) (schema : DerivedSchema) (rule : Option NamingRule)
        (fields : List (FieldOutline × FieldOptions)),
      d.derive = .ok schema → d.described = .ok (rule, fields) →
        List.Forall₂ (fun (f : FieldOutline × FieldOptions) (field : String × String) =>
            f.2.filteredAs = none → field.1 = Outline.storedKey rule f.1 f.2)
          (fields.filter fun f => !f.2.skip) schema.fields := by
  intro h
  have hderive : attic.derive.map (fun schema => schema.fields.map Prod.fst) = .ok ["Floor"] := by
    decide +kernel
  have hkeys : attic.described.map (fun (rule, fields) => (fields.filter fun f => !f.2.skip).map
      fun f => (f.2.filteredAs, Outline.storedKey rule f.1 f.2)) = .ok [(none, "floor")] := by
    decide +kernel
  obtain ⟨schema, hschema, hnames⟩ := map_eq_ok_iff.mp hderive
  obtain ⟨⟨rule, fields⟩, hdescribed, hfields⟩ := map_eq_ok_iff.mp hkeys
  obtain ⟨field, hfield, hname⟩ := List.map_eq_singleton_iff.mp hnames
  obtain ⟨f, hf, hkey⟩ := List.map_eq_singleton_iff.mp hfields
  have hall := h attic schema rule fields hschema hdescribed
  rw [hf, hfield, List.forall₂_cons] at hall
  rw [Prod.mk.injEq] at hkey
  have hsame := hall.1 hkey.1
  rw [hname, hkey.2] at hsame
  exact absurd hsame (by decide)

end Declaration
end Sift
