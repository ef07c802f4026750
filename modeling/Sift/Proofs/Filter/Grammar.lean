import Sift.Filter.Token
import Sift.Proofs.Outcome
import Sift.Proofs.Text.Split
import Sift.Proofs.Value.Seen

/-!
# The grammar of filter tokens

`HasShape` says what a token looks like, `ValueReads` and `ValueFails` what its value part stands
for, and `Reads` puts them together with one rule for each way in which reading a token can end.
`read_eq_iff_reads` says that reading follows these rules, and `readAll_grammar` carries them over
to lists of tokens.
-/

namespace Sift

/-- The operator goes by this name, in letters of any case. -/
def Operator.Names (op : Operator) (name : String) : Prop :=
  Text.sameIgnoringCase op.name name = true

theorem Operator.Names.unique {op other : Operator} {name : String} (h : op.Names name)
    (h' : other.Names name) : op = other := by
  have hinj : ∀ a ∈ all, ∀ b ∈ all,
      a.name.toList.map Char.toLower = b.name.toList.map Char.toLower → a = b := by decide
  exact hinj op (mem_all op) other (mem_all other) ((beq_iff_eq.mp h).trans (beq_iff_eq.mp h').symm)

theorem Operator.ofName?_eq_some_iff {op : Operator} {name : String} :
    ofName? name = some op ↔ op.Names name := by
  have hnames : ∀ {other}, ofName? name = some other → other.Names name := fun h =>
    List.find?_some (p := fun op : Operator => Text.sameIgnoringCase op.name name) h
  refine ⟨hnames, fun h => ?_⟩
  cases hfind : ofName? name with
  | none => exact absurd h (List.find?_eq_none.mp hfind op (mem_all op))
  | some other => rw [(hnames hfind).unique h]

theorem Operator.ofName?_eq_none_iff {name : String} :
    ofName? name = none ↔ ∀ op : Operator, ¬ op.Names name := by
  simp only [← ofName?_eq_some_iff]
  exact Option.eq_none_iff_forall_ne_some

theorem Operator.isMulti_eq_true_iff {op : Operator} :
    op.isMulti = true ↔ op = .isIn ∨ op = .notIn := by
  cases op <;> simp [isMulti]

/-- Operators take a set, a pattern or a single value. -/
theorem Operator.takes (op : Operator) :
    (op = .isIn ∨ op = .notIn) ∨ op = .regex ∨ op ≠ .isIn ∧ op ≠ .notIn ∧ op ≠ .regex := by
  cases op <;> simp

namespace FilterToken

/-! ## Rules -/

/-- The token is a field, an operator and a value with a delimiter between them, and perhaps with
more delimiters behind the value, which is not empty. -/
structure HasShape (d : Char) (token field opName value : String) : Prop where
  free_field : d ∉ field.toList
  free_opName : d ∉ opName.toList
  free_value : d ∉ value.toList
  value_ne : value ≠ ""
  toList_eq : ∃ k, token.toList =
    field.toList ++ d :: (opName.toList ++ d :: (value.toList ++ List.replicate k d))

/-- What a value part stands for. -/
inductive ValueReads (config : FilterConfig) (type : ScalarType) (text : String) :
    Operator → FilterValue → Prop where
  /-- Each part of a set is a value, and of equal ones the first stays. -/
  | set {op parts values members} (hop : op = .isIn ∨ op = .notIn)
      (hparts : Text.MadeOf config.valueDelimiter parts text)
      (hvalues : List.Forall₂ (fun part v => type.coerce part = .ok v) parts values)
      (hmembers : members = ValueSet.ofList values)
      (hlisted : members.values = values.eraseDups) :
    ValueReads config type text op (.set members)
  | pattern (hmode : config.regexMode = .raw) (htype : type = .string) :
    ValueReads config type text .regex (.single (.string text))
  | literal (hmode : config.regexMode = .literal) (htype : type = .string) :
    ValueReads config type text .regex (.single (.string (Pattern.escape text)))
  | single {op value} (hop : op ≠ .isIn ∧ op ≠ .notIn ∧ op ≠ .regex)
      (hvalue : type.coerce text = .ok value) :
    ValueReads config type text op (.single value)

/-- How a value part stands for nothing. -/
inductive ValueFails (config : FilterConfig) (type : ScalarType) (text : String) :
    Operator → FilterError → Prop where
  /-- The first part of a set that is no value is blamed. -/
  | set {op before part after fault} (hop : op = .isIn ∨ op = .notIn)
      (hparts : Text.MadeOf config.valueDelimiter (before ++ part :: after) text)
      (hbefore : ∀ p ∈ before, ∃ v, type.coerce p = .ok v)
      (hpart : type.read part = .error fault) :
    ValueFails config type text op (.coercion part type fault)
  | pattern (htype : type ≠ .string) :
    ValueFails config type text .regex (.coercion text type .notText)
  | single {op fault} (hop : op ≠ .isIn ∧ op ≠ .notIn ∧ op ≠ .regex)
      (hvalue : type.read text = .error fault) :
    ValueFails config type text op (.coercion text type fault)

variable {ι : Type} [Catalog ι]

/-- How reading a token ends.  Its shape is judged first, then its operator, its field and its
value. -/
inductive Reads (config : FilterConfig) (schema : Schema ι) (token : String) :
    Except FilterError FilterEntry → Prop where
  | malformed (h : ∀ field opName value,
      ¬ HasShape config.tokenDelimiter token field opName value) :
    Reads config schema token (.error (.malformed token))
  | unknownOperator {field opName value}
      (h : HasShape config.tokenDelimiter token field opName value)
      (hop : ∀ op : Operator, ¬ op.Names opName) :
    Reads config schema token (.error (.unknownOperator opName))
  | unresolved {field opName value} {op : Operator} {error}
      (h : HasShape config.tokenDelimiter token field opName value) (hop : op.Names opName)
      (hfield : schema.resolve field = .error error) :
    Reads config schema token (.error error)
  | badValue {field opName value} {op : Operator} {type error}
      (h : HasShape config.tokenDelimiter token field opName value) (hop : op.Names opName)
      (hfield : schema.resolve field = .ok type)
      (hvalue : ValueFails config type value op error) :
    Reads config schema token (.error error)
  | entry {field opName value} {op : Operator} {type} {v : FilterValue}
      (h : HasShape config.tokenDelimiter token field opName value) (hop : op.Names opName)
      (hfield : schema.resolve field = .ok type)
      (hvalue : ValueReads config type value op v) :
    Reads config schema token (.ok ⟨field, op, v⟩)

/-! ## The shape of a token -/

theorem hasShape_iff_madeOf {d : Char} {token field opName value : String} :
    HasShape d token field opName value ↔ Text.MadeOf d [field, opName, value] token := by
  constructor
  · intro h
    refine ⟨?_, fun _ => h.value_ne, ?_⟩
    · simp [h.free_field, h.free_opName, h.free_value]
    · obtain ⟨k, hk⟩ := h.toList_eq
      exact ⟨k, by simp [hk]⟩
  · intro h
    have hfree := h.free
    simp only [List.mem_cons, List.not_mem_nil, or_false, forall_eq_or_imp, forall_eq] at hfree
    refine ⟨hfree.1, hfree.2.1, hfree.2.2, h.last (by simp), ?_⟩
    obtain ⟨k, hk⟩ := h.trail
    exact ⟨k, by simpa using hk⟩

theorem read_of_hasShape {config : FilterConfig} {token field opName value : String}
    (h : HasShape config.tokenDelimiter token field opName value) (schema : Schema ι) :
    read config schema token =
      match Operator.ofName? opName with
      | none => .error (.unknownOperator opName)
      | some op => (schema.resolve field).bind fun type =>
        (readValue config op type value).bind fun v => .ok ⟨field, op, v⟩ := by
  rw [read, Text.trimmedPieces_of_madeOf (hasShape_iff_madeOf.mp h)]
  cases hop : Operator.ofName? opName <;> simp only [hop] <;> rfl

theorem read_of_no_shape {config : FilterConfig} {token : String}
    (h : ∀ field opName value, ¬ HasShape config.tokenDelimiter token field opName value)
    (schema : Schema ι) : read config schema token = .error (.malformed token) := by
  unfold read
  split
  · rename_i field opName value hpieces
    exact absurd (hasShape_iff_madeOf.mpr (Text.trimmedPieces_eq_iff.mp hpieces)) (h _ _ _)
  · rfl

/-! ## The value of a token -/

theorem coerce_eq_error_iff {type : ScalarType} {text : String} {error : FilterError} :
    type.coerce text = .error error ↔
      ∃ fault, type.read text = .error fault ∧ .coercion text type fault = error :=
  mapError_eq_error_iff

section Value

variable {config : FilterConfig} {type : ScalarType} {text : String} {op : Operator}

theorem readValue_set (hop : op = .isIn ∨ op = .notIn) :
    readValue config op type text =
      ((Text.trimmedPieces config.valueDelimiter text).mapM type.coerce).map
        fun values => .set (.ofList values) := by
  rw [readValue, if_pos (Operator.isMulti_eq_true_iff.mpr hop)]
  rfl

theorem readValue_regex :
    readValue config .regex type text =
      if type = .string then .ok (.single (.string (patternText config.regexMode text)))
      else .error (.coercion text type .notText) := by
  simp [readValue, Operator.isMulti, ScalarType.isTextual]

theorem readValue_single (hop : op ≠ .isIn ∧ op ≠ .notIn ∧ op ≠ .regex) :
    readValue config op type text = (type.coerce text).map .single := by
  have hmulti : ¬ op.isMulti = true := by
    rw [Operator.isMulti_eq_true_iff]
    exact fun h => h.elim hop.1 hop.2.1
  rw [readValue, if_neg hmulti, if_neg hop.2.2]
  rfl

theorem readValue_eq_ok_iff {v : FilterValue} :
    readValue config op type text = .ok v ↔ ValueReads config type text op v := by
  constructor
  · intro h
    rcases op.takes with hop | rfl | hop
    · rw [readValue_set hop, map_eq_ok_iff] at h
      obtain ⟨values, hvalues, rfl⟩ := h
      exact .set hop (Text.madeOf_trimmedPieces _ _) (mapM_eq_ok_iff.mp hvalues) rfl
        (ValueSet.values_ofList values)
    · rw [readValue_regex] at h
      split at h
      · rename_i htype
        cases hmode : config.regexMode with
        | raw =>
          simp only [patternText, hmode, Except.ok.injEq] at h
          exact h ▸ .pattern hmode htype
        | literal =>
          simp only [patternText, hmode, Except.ok.injEq] at h
          exact h ▸ .literal hmode htype
      · cases h
    · rw [readValue_single hop, map_eq_ok_iff] at h
      obtain ⟨value, hvalue, rfl⟩ := h
      exact .single hop hvalue
  · intro h
    cases h with
    | set hop hparts hvalues hmembers =>
      rw [readValue_set hop, Text.trimmedPieces_of_madeOf hparts, mapM_eq_ok_iff.mpr hvalues,
        hmembers]
      rfl
    | pattern hmode htype =>
      rw [readValue_regex, if_pos htype, hmode]
      rfl
    | literal hmode htype =>
      rw [readValue_regex, if_pos htype, hmode]
      rfl
    | single hop hvalue =>
      rw [readValue_single hop, hvalue]
      rfl

theorem readValue_eq_error_iff {error : FilterError} :
    readValue config op type text = .error error ↔ ValueFails config type text op error := by
  constructor
  · intro h
    rcases op.takes with hop | rfl | hop
    · rw [readValue_set hop, map_eq_error_iff, mapM_eq_error_iff] at h
      obtain ⟨before, part, after, hparts, hbefore, hpart⟩ := h
      obtain ⟨fault, hfault, rfl⟩ := coerce_eq_error_iff.mp hpart
      exact .set hop (Text.trimmedPieces_eq_iff.mp hparts) hbefore hfault
    · rw [readValue_regex] at h
      split at h
      · cases h
      · rename_i htype
        cases h
        exact .pattern htype
    · rw [readValue_single hop, map_eq_error_iff] at h
      obtain ⟨fault, hfault, rfl⟩ := coerce_eq_error_iff.mp h
      exact .single hop hfault
  · intro h
    cases h with
    | @set _ before part after fault hop hparts hbefore hpart =>
      rw [readValue_set hop, map_eq_error_iff, mapM_eq_error_iff,
        Text.trimmedPieces_of_madeOf hparts]
      exact ⟨before, part, after, rfl, hbefore, coerce_eq_error_iff.mpr ⟨fault, hpart, rfl⟩⟩
    | pattern htype => rw [readValue_regex, if_neg htype]
    | @single _ fault hop hvalue =>
      rw [readValue_single hop, map_eq_error_iff]
      exact coerce_eq_error_iff.mpr ⟨fault, hvalue, rfl⟩

end Value

/-! ## Tokens -/

/-- The rules decide how reading a token ends. -/
theorem read_eq_iff_reads {config : FilterConfig} {schema : Schema ι} {token : String}
    {result : Except FilterError FilterEntry} :
    read config schema token = result ↔ Reads config schema token result := by
  constructor
  · rintro rfl
    by_cases hshape : ∃ field opName value,
        HasShape config.tokenDelimiter token field opName value
    · obtain ⟨field, opName, value, h⟩ := hshape
      rw [read_of_hasShape h]
      cases hop : Operator.ofName? opName with
      | none => exact .unknownOperator h (Operator.ofName?_eq_none_iff.mp hop)
      | some op =>
        have hnames := Operator.ofName?_eq_some_iff.mp hop
        cases hfield : schema.resolve field with
        | error error => exact .unresolved h hnames hfield
        | ok type =>
          simp only [Except.bind]
          cases hvalue : readValue config op type value with
          | error error => exact .badValue h hnames hfield (readValue_eq_error_iff.mp hvalue)
          | ok v => exact .entry h hnames hfield (readValue_eq_ok_iff.mp hvalue)
    · have hnone : ∀ field opName value,
          ¬ HasShape config.tokenDelimiter token field opName value :=
        fun field opName value h => hshape ⟨field, opName, value, h⟩
      rw [read_of_no_shape hnone]
      exact .malformed hnone
  · intro h
    cases h with
    | malformed h => exact read_of_no_shape h schema
    | unknownOperator h hop => rw [read_of_hasShape h, Operator.ofName?_eq_none_iff.mpr hop]
    | unresolved h hop hfield =>
      rw [read_of_hasShape h, Operator.ofName?_eq_some_iff.mpr hop]
      simp only [hfield, Except.bind]
    | badValue h hop hfield hvalue =>
      rw [read_of_hasShape h, Operator.ofName?_eq_some_iff.mpr hop]
      simp only [hfield, readValue_eq_error_iff.mpr hvalue, Except.bind]
    | entry h hop hfield hvalue =>
      rw [read_of_hasShape h, Operator.ofName?_eq_some_iff.mpr hop]
      simp only [hfield, readValue_eq_ok_iff.mpr hvalue, Except.bind]

/-- Reading follows the rules: a token reads as an entry exactly if it is one by the grammar, and
otherwise fails as the first rule that it breaks says.  A list of tokens reads as their entries in
order, or fails as its first failing token does. -/
theorem readAll_grammar (config : FilterConfig) (schema : Schema ι) :
    (∀ token result, read config schema token = result ↔ Reads config schema token result) ∧
    (∀ tokens entries, readAll config schema tokens = .ok entries ↔
      List.Forall₂ (fun token e => Reads config schema token (.ok e)) tokens entries) ∧
    (∀ tokens error, readAll config schema tokens = .error error ↔
      ∃ before token after, tokens = before ++ token :: after ∧
        (∀ t ∈ before, ∃ e, Reads config schema t (.ok e)) ∧
        Reads config schema token (.error error)) := by
  refine ⟨fun token result => read_eq_iff_reads, fun tokens entries => ?_, fun tokens error => ?_⟩
  · simp only [← read_eq_iff_reads]
    exact mapM_eq_ok_iff
  · simp only [← read_eq_iff_reads]
    exact mapM_eq_error_iff

end FilterToken
end Sift
