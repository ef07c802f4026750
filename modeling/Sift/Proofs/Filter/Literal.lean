import Sift.Collection
import Sift.Proofs.Filter.Grammar
import Sift.Proofs.Match.Select
import Sift.Proofs.Pattern.Literal
import Sift.Record.Name

/-!
# Filters for a text as it stands

In literal mode the value of a `regex` filter is escaped.  Whatever characters it has, its pattern
is read, and it matches where the value stands in a text (`Pattern.parse_escape` and
`Pattern.isMatch_literal`).  So the filter selects the documents with the value in a text at its
field, or in a text of an array there (`finds_of_literal`).
-/

namespace Sift

/-- The value is a text in which the other text stands, or an array with such an element. -/
def Bson.HoldsText (value : Bson) (text : String) : Prop :=
  ∃ s, (value = .string s ∨ ∃ items, value = .array items ∧ .string s ∈ items) ∧
    text.toList <:+: s.toList

theorem Bson.holdsText_iff {value : Bson} {text : String} :
    value.HoldsText text ↔
      (value.candidates.any fun c => c.asText?.any (Pattern.literal text.toList).isMatch) =
        true := by
  have hmatch : ∀ c : Bson, c.asText?.any (Pattern.literal text.toList).isMatch = true ↔
      ∃ s, c = .string s ∧ text.toList <:+: s.toList := by
    intro c
    simp only [Option.any_eq_true, Bson.asText?_eq_some_iff, Pattern.isMatch_literal]
  simp only [List.any_eq_true, hmatch, HoldsText]
  cases value <;> simp [candidates]

/-! ## Tokens as they are written -/

namespace FilterToken

variable {config : FilterConfig} {field opName value : String}

/-- A field, the name of an operator and a value with a delimiter between them. -/
def written (config : FilterConfig) (field opName value : String) : String :=
  let d := config.tokenDelimiter.toString
  field ++ d ++ opName ++ d ++ value

theorem hasShape_written (hfield : config.tokenDelimiter ∉ field.toList)
    (hop : config.tokenDelimiter ∉ opName.toList) (hvalue : config.tokenDelimiter ∉ value.toList)
    (hne : value ≠ "") :
    HasShape config.tokenDelimiter (written config field opName value) field opName value := by
  refine ⟨hfield, hop, hvalue, hne, 0, ?_⟩
  simp [written, Char.toString]

end FilterToken

/-! ## Criteria with a pattern -/

section

variable {field pattern : String} {e : Pattern.Expr}

theorem Patterns.compile_regex (h : Pattern.read pattern = .ok e) (field : String) :
    compile [Where.regex field pattern] = .ok ⟨[(pattern, e)]⟩ := by
  have hclause : (Where.regex field pattern).clause? .regex = some (.string pattern) := rfl
  simp [compile, addCriterion, hclause, Bson.asText?, get?, empty, Keyed.get?, h, bind, Except.bind,
    pure, Except.pure]

theorem Criterion.holds_regex (h : Pattern.read pattern = .ok e) (field : String) (d : Document) :
    (Where.regex field pattern).holds d =
      (d.lookup field).any fun v => v.candidates.any fun c => c.asText?.any e.isMatch := by
  have hclause : ∀ v : Bson, Patterns.clauseHolds ⟨[(pattern, e)]⟩ .regex (.string pattern) v =
      .ok (v.candidates.any fun c => c.asText?.any e.isMatch) := by
    simp [Patterns.clauseHolds, Bson.asText?, Patterns.get?, Keyed.get?]
  rw [holds, Patterns.compile_regex h]
  simp only [Except.bind, Patterns.criterionHolds, Where.regex, single, List.allM]
  cases d.lookup field with
  | none => rfl
  | some v =>
    simp only [Patterns.clauseHoldsAt, hclause, Option.any_some]
    cases v.candidates.any fun c => c.asText?.any e.isMatch <;> rfl

theorem Memory.find_regex (h : Pattern.read pattern = .ok e) (m : Memory)
    (collection field : String) :
    m.find collection (Query.empty.withCriterion (Where.regex field pattern)) =
      .ok ((m.documents collection).filter fun value => value.asDocument?.any fun d =>
        (d.lookup field).any fun v => v.candidates.any fun c => c.asText?.any e.isMatch) := by
  have hwf : ∀ c ∈ [Where.regex field pattern], c.WellFormed := by
    simp [Where.regex, Criterion.wellFormed_single]
  refine (find_eq_matching m collection [Where.regex field pattern]).trans ?_
  rw [matching_of_compile hwf (Patterns.compile_regex h field)]
  refine congrArg _ (List.filter_congr fun value _ => ?_)
  simp [Query.selects, Criterion.holds_regex h]

end

/-! ## Literal mode -/

section

variable {ι : Type} [Catalog ι] {c : Collection ι} {field value : String}

theorem Collection.filterQuery_literal (hmode : c.config.regexMode = .literal)
    (hfield : c.schema.resolve field = .ok .string)
    (hshape : FilterToken.HasShape c.config.tokenDelimiter
      (FilterToken.written c.config field "regex" value) field "regex" value) :
    c.filterQuery [FilterToken.written c.config field "regex" value] =
      .ok (Query.empty.withCriterion (Where.regex field (Pattern.escape value))) := by
  have hname : Operator.Names .regex "regex" := show Text.sameIgnoringCase _ _ = true by decide
  have hentry := FilterToken.read_eq_iff_reads.mpr
    (.entry hshape hname hfield (.literal hmode rfl))
  unfold filterQuery
  simp only [FilterToken.readAll, List.mapM_cons, List.mapM_nil, hentry]
  rfl

/-- In literal mode a filter with a value that is not empty makes a query with one pattern, which
compiles.  The query finds the documents with a text at the field in which the value stands, or with
an array there that has such an element. -/
theorem finds_of_literal (hmode : c.config.regexMode = .literal)
    (hfield : c.schema.resolve field = .ok .string)
    (hfree : c.config.tokenDelimiter ∉ field.toList)
    (hop : c.config.tokenDelimiter ∉ "regex".toList)
    (hvalue : c.config.tokenDelimiter ∉ value.toList) (hne : value ≠ "")
    (hsize : (Pattern.literal value.toList).fits = true) :
    ∃ (q : Query) (ps : Patterns) (p : Bson → Bool),
      c.filterQuery [FilterToken.written c.config field "regex" value] = .ok q ∧
      q.criteria = [Where.regex field (Pattern.escape value)] ∧
      Patterns.compile q.criteria = .ok ps ∧
      (∀ v, p v = true ↔ ∃ (d : Document) (found : Bson),
        v = .document d ∧ d.lookup field = some found ∧ found.HoldsText value) ∧
      ∀ (m : Memory) (collection : String),
        m.find collection q = .ok ((m.documents collection).filter p) := by
  have hread : Pattern.read (Pattern.escape value) = .ok (Pattern.literal value.toList) := by
    simp [Pattern.read, Pattern.parse_escape, hsize, bind, Except.bind, pure, Except.pure]
  have hshape := FilterToken.hasShape_written hfree hop hvalue hne
  refine ⟨_, _, _, Collection.filterQuery_literal hmode hfield hshape, rfl,
    Patterns.compile_regex hread field, fun v => ?_, fun m collection =>
      Memory.find_regex hread m collection field⟩
  simp only [Option.any_eq_true, ← Bson.holdsText_iff]
  cases v <;> simp [Bson.asDocument?]

end

/-- Employees in literal mode, with a delimiter that stands for a choice in patterns. -/
def literalStaff : Collection RecordName :=
  ⟨"employees", RecordName.employeeSchema, ⟨'|', ';', .literal⟩⟩

def managed (manager : Bson) : Bson := .document [("manager", .document [("name", manager)])]

theorem finds_of_literal_literalStaff :
    ∃ (q : Query) (p : Bson → Bool),
      literalStaff.filterQuery ["manager.name|regex|(é+"] = .ok q ∧
      p (managed (.string "Ren(é+e)")) = true ∧
      p (managed (.array [.null, .string "(é+"])) = true ∧
      p (managed (.string "Renée")) = false ∧
      ∀ m : Memory, m.find "employees" q = .ok ((m.documents "employees").filter p) := by
  obtain ⟨q, ps, p, hq, -, -, hp, hfind⟩ := @finds_of_literal RecordName _ literalStaff
    "manager.name" "(é+" rfl rfl (by decide) (by decide) (by decide) (by decide)
    ((Pattern.fits_literal_iff (by decide)).mpr (by decide))
  have hmanaged : ∀ name, p (managed name) = true ↔ name.HoldsText "(é+" := by
    intro name
    have hlookup : Document.lookup [("manager", .document [("name", name)])] "manager.name" =
      some name := rfl
    simp [hp, managed, hlookup]
  have hno : ¬ (Bson.string "Renée").HoldsText "(é+" := by
    rintro ⟨s, hs | ⟨items, hitems, -⟩, hinfix⟩
    · rw [← Bson.string.inj hs] at hinfix
      exact absurd hinfix (by decide)
    · cases hitems
  refine ⟨q, p, hq, ?_, ?_, ?_, fun m => hfind m "employees"⟩
  · exact (hmanaged _).mpr ⟨"Ren(é+e)", .inl rfl, by decide⟩
  · exact (hmanaged _).mpr ⟨"(é+", .inr ⟨_, rfl, by simp⟩, by decide⟩
  · exact Bool.eq_false_iff.mpr fun h => hno ((hmanaged _).mp h)

end Sift
