import Sift.Collection
import Sift.Mongo.Filter
import Sift.Proofs.Filter.Criteria
import Sift.Proofs.Filter.Grammar
import Sift.Record.Name

/-!
# Entries that tokens read as

An entry read from a token is typed: its field has a scalar type and its value is of this type, in
the form that its operator asks for.  Typed entries make a query without a fault, and the query can
be written as a MongoDB filter.  So reading filters fails only for what is wrong with the tokens,
which `readAll_typed` sums up.
-/

namespace Sift

/-- The values that a field is compared with. -/
def FilterValue.members : FilterValue → List TypedValue
  | .single value => [value]
  | .set values => values.values

def FilterValue.isSet : FilterValue → Bool
  | .single _ => false
  | .set _ => true

variable {ι : Type} [Catalog ι]

/-- The field has a scalar type, and the value is of this type and in the form that the operator
asks for. -/
structure FilterEntry.Typed (schema : Schema ι) (type : ScalarType) (e : FilterEntry) : Prop where
  resolve_eq : schema.resolve e.field = .ok type
  isSet_iff : e.value.isSet = true ↔ e.op = .isIn ∨ e.op = .notIn
  scalarType_eq : ∀ v ∈ e.value.members, v.scalarType = type
  string_of_regex : e.op = .regex → type = .string

/-! ## Reading gives typed entries -/

theorem ScalarType.scalarType_of_coerce {type : ScalarType} {text : String} {v : TypedValue}
    (h : type.coerce text = .ok v) : v.scalarType = type := by
  have hread := mapError_eq_ok_iff.mp h
  cases type with
  | string => exact Except.ok.inj hread ▸ rfl
  | uuid =>
    simp only [read] at hread
    split at hread
    · exact Except.ok.inj hread ▸ rfl
    · cases hread
  | _ =>
    obtain ⟨_, _, rfl⟩ := map_eq_ok_iff.mp hread
    rfl

namespace FilterToken

theorem typed_of_valueReads {config : FilterConfig} {schema : Schema ι} {type : ScalarType}
    {field text : String} {op : Operator} {value : FilterValue}
    (hfield : schema.resolve field = .ok type) (h : ValueReads config type text op value) :
    FilterEntry.Typed schema type ⟨field, op, value⟩ := by
  cases h with
  | set hop _ hvalues _ hlisted =>
    refine ⟨hfield, by simpa [FilterValue.isSet] using hop, fun v hv => ?_, ?_⟩
    · rw [FilterValue.members, hlisted, List.mem_eraseDups] at hv
      obtain ⟨_, _, hpart⟩ := exists_of_mem_mapM (mapM_eq_ok_iff.mpr hvalues) hv
      exact ScalarType.scalarType_of_coerce hpart
    · rintro rfl
      simp at hop
  | pattern _ htype | literal _ htype =>
    subst htype
    exact ⟨hfield, by simp [FilterValue.isSet],
      by simp [FilterValue.members, TypedValue.scalarType], fun _ => rfl⟩
  | single hop hvalue =>
    refine ⟨hfield, by simp [FilterValue.isSet, hop.1, hop.2.1], ?_, fun h => absurd h hop.2.2⟩
    simpa [FilterValue.members] using ScalarType.scalarType_of_coerce hvalue

theorem typed_of_reads {config : FilterConfig} {schema : Schema ι} {token : String}
    {e : FilterEntry} (h : Reads config schema token (.ok e)) : ∃ type, e.Typed schema type := by
  cases h with
  | entry _ _ hfield hvalue => exact ⟨_, typed_of_valueReads hfield hvalue⟩

theorem typed_of_readAll {config : FilterConfig} {schema : Schema ι} {tokens : List String}
    {entries : List FilterEntry} (h : readAll config schema tokens = .ok entries) :
    ∀ e ∈ entries, ∃ type, e.Typed schema type := by
  intro e he
  obtain ⟨token, _, hread⟩ := exists_of_mem_mapM h he
  exact typed_of_reads (read_eq_iff_reads.mp hread)

end FilterToken

/-! ## Typed entries make a query and a filter -/

namespace FilterEntry

variable {schema : Schema ι} {type : ScalarType} {e : FilterEntry}

theorem Typed.not_contradicts (h : e.Typed schema type) (fault : ShapeFault) :
    ¬ e.Contradicts fault := by
  intro hfault
  have hset := h.isSet_iff
  cases hfault with
  | needsSingle hop =>
    have hmulti := Operator.isMulti_eq_true_iff.mpr (hset.mp rfl)
    rw [hop] at hmulti
    cases hmulti
  | needsSet hop => cases hset.mpr (Operator.isMulti_eq_true_iff.mp hop)
  | @patternNotText field value htype =>
    have hvalue := h.scalarType_eq value (by simp [FilterValue.members])
    exact htype (hvalue.trans (h.string_of_regex rfl))

theorem Typed.checkClause_eq (h : e.Typed schema type) :
    Mongo.checkClause e.field e.op e.value.toBson = .ok () := by
  have hsuits := h.not_contradicts
  obtain ⟨field, op, value⟩ := e
  cases value with
  | set values => cases op <;> first | rfl | exact absurd (.needsSingle rfl) (hsuits _)
  | single value =>
    cases op with
    | isIn | notIn => exact absurd (.needsSet rfl) (hsuits _)
    | regex =>
      cases value with
      | string text => rfl
      | _ => exact absurd (.patternNotText (by simp [TypedValue.scalarType])) (hsuits _)
    | _ => rfl

end FilterEntry

namespace Mongo

theorem exists_clauseFields {field : String} {clauses : List (Operator × Bson)}
    (h : ∀ clause ∈ clauses, checkClause field clause.1 clause.2 = .ok ()) (fields : Document) :
    ∃ d, clauseFields field fields clauses = .ok d := by
  induction clauses generalizing fields with
  | nil => exact ⟨fields, rfl⟩
  | cons clause clauses ih =>
    obtain ⟨d, hd⟩ := ih (fun c hc => h c (List.mem_cons_of_mem _ hc))
      (fields.put (operatorKey clause.1) clause.2)
    exact ⟨d, bind_eq_ok_iff.mpr ⟨(), h clause List.mem_cons_self, hd⟩⟩

theorem exists_filterFields {criteria : List Criterion}
    (h : ∀ c ∈ criteria, ∀ clause ∈ c.clauses, checkClause c.field clause.1 clause.2 = .ok ())
    (filter : Document) : ∃ d, filterFields filter criteria = .ok d := by
  induction criteria generalizing filter with
  | nil => exact ⟨filter, rfl⟩
  | cons c criteria ih =>
    obtain ⟨clauses, hclauses⟩ := exists_clauseFields (h c List.mem_cons_self) []
    obtain ⟨d, hd⟩ := ih (fun c' hc' => h c' (List.mem_cons_of_mem _ hc'))
      (filter.put c.field (.document clauses))
    exact ⟨d, bind_eq_ok_iff.mpr ⟨clauses, hclauses, hd⟩⟩

end Mongo

namespace Criteria

variable {schema : Schema ι} {entries : List FilterEntry}

theorem build_of_typed (h : ∀ e ∈ entries, ∃ type, e.Typed schema type) :
    build entries = .ok { Query.empty with criteria := perField entries } :=
  build_of_suits fun e he => (h e he).choose_spec.not_contradicts

theorem exists_filter_of_typed (h : ∀ e ∈ entries, ∃ type, e.Typed schema type) :
    ∃ filter, Mongo.filter { Query.empty with criteria := perField entries } = .ok filter := by
  refine Mongo.exists_filterFields (fun c hc clause hclause => ?_) []
  -- a clause stands there for one of the entries, whose value is checked already
  obtain ⟨e, he, hfield, rfl⟩ := exists_entry_of_mem_perField hc hclause
  obtain ⟨type, htyped⟩ := h e he
  rw [← hfield]
  exact htyped.checkClause_eq

end Criteria

/-! ## What is wrong with tokens -/

/-- The error blames the request. -/
def FilterError.BlamesClient (error : FilterError) : Prop :=
  (StoreError.filter error).isClientError = true

theorem Schema.blamesClient_of_follow {path : String} {error : FilterError} :
    ∀ {segments : List String} {s : Schema ι}, s.follow path segments = .error error →
      error.BlamesClient := by
  intro segments
  induction segments with
  | nil =>
    intro s h
    cases h
    rfl
  | cons segment rest ih =>
    intro s h
    unfold follow at h
    split at h
    · cases h
      rfl
    · split at h
      · cases h
      · split at h
        · exact ih h
        · cases h
          rfl

theorem Schema.blamesClient_of_resolve {s : Schema ι} {path : String} {error : FilterError}
    (h : s.resolve path = .error error) : error.BlamesClient := by
  unfold resolve at h
  cases hfield : s.resolveField path with
  | error cause =>
    rw [hfield] at h
    cases h
    exact blamesClient_of_follow hfield
  | ok type =>
    rw [hfield] at h
    cases type <;> cases h <;> rfl

namespace FilterToken

variable {config : FilterConfig} {schema : Schema ι}

theorem blamesClient_of_reads {token : String} {error : FilterError}
    (h : Reads config schema token (.error error)) : error.BlamesClient := by
  cases h with
  | malformed _ => rfl
  | unknownOperator _ _ => rfl
  | unresolved _ _ hfield => exact Schema.blamesClient_of_resolve hfield
  | badValue _ _ _ hvalue => cases hvalue <;> rfl

theorem blamesClient_of_readAll {tokens : List String} {error : FilterError}
    (h : readAll config schema tokens = .error error) : error.BlamesClient := by
  obtain ⟨_, token, _, _, _, hread⟩ := mapM_eq_error_iff.mp h
  exact blamesClient_of_reads (read_eq_iff_reads.mp hread)

/-- A failure to make a query from tokens is a failure to read one of them. -/
theorem filterQuery_eq_error_iff {name : String} {tokens : List String} {error : StoreError} :
    Collection.filterQuery ⟨name, schema, config⟩ tokens = .error error ↔
      ∃ cause, readAll config schema tokens = .error cause ∧ .filter cause = error := by
  have hquery : Collection.filterQuery ⟨name, schema, config⟩ tokens =
      ((readAll config schema tokens).bind Criteria.build).mapError .filter := rfl
  rw [hquery]
  cases hread : readAll config schema tokens with
  | error cause => simp [Except.bind, Except.mapError]
  | ok entries =>
    simp [Except.bind, Except.mapError, Criteria.build_of_typed (typed_of_readAll hread)]

/-- Tokens that can be read give typed entries, which make a query, which has a filter document.
What goes wrong with tokens is then always the client's doing. -/
theorem readAll_typed (config : FilterConfig) (schema : Schema ι) :
    (∀ tokens entries, readAll config schema tokens = .ok entries →
      (∀ e ∈ entries, ∃ type, e.Typed schema type) ∧
      ∃ q filter, Criteria.build entries = .ok q ∧ Mongo.filter q = .ok filter) ∧
    ∀ name tokens error,
      Collection.filterQuery ⟨name, schema, config⟩ tokens = .error error →
        error.isClientError = true := by
  refine ⟨fun tokens entries h => ?_, fun name tokens error h => ?_⟩
  · have htyped := typed_of_readAll h
    obtain ⟨filter, hfilter⟩ := Criteria.exists_filter_of_typed htyped
    exact ⟨htyped, _, filter, Criteria.build_of_typed htyped, hfilter⟩
  · obtain ⟨cause, hcause, rfl⟩ := filterQuery_eq_error_iff.mp h
    exact blamesClient_of_readAll hcause

/-- Tokens on four fields of a booking, with every form of value. -/
def bookingTokens : List String :=
  ["room|in|1;2;1", "guest.email|regex|@", "checkIn|gte|2024-01-01T00:00:00Z",
    "guest.address.city|ne|Rome", "room|GT|5"]

theorem readAll_typed_bookingTokens :
    (∃ entries, readAll .standard RecordName.bookingSchema bookingTokens = .ok entries ∧
      (∀ e ∈ entries, ∃ type, e.Typed RecordName.bookingSchema type) ∧
      ∃ q filter, Criteria.build entries = .ok q ∧ Mongo.filter q = .ok filter) ∧
    Collection.filterQuery ⟨"bookings", RecordName.bookingSchema, .standard⟩ ["room|regex|5"] =
      .error (.filter (.coercion "5" .int32 .notText)) ∧
    (StoreError.filter (.coercion "5" .int32 .notText)).isClientError = true := by
  obtain ⟨hread, herror⟩ := readAll_typed .standard RecordName.bookingSchema
  refine ⟨?_, ?_⟩
  · have hok : (readAll .standard RecordName.bookingSchema bookingTokens).isOk = true := by
      decide +kernel
    cases h : readAll .standard RecordName.bookingSchema bookingTokens with
    | error error =>
      rw [h] at hok
      cases hok
    | ok entries => exact ⟨entries, rfl, hread _ entries h⟩
  · have hfail : Collection.filterQuery ⟨"bookings", RecordName.bookingSchema, .standard⟩
        ["room|regex|5"] = .error (.filter (.coercion "5" .int32 .notText)) := rfl
    exact ⟨hfail, herror "bookings" _ _ hfail⟩

end FilterToken
end Sift
