import Sift.Proofs.Outcome
import Sift.Proofs.Schema.Conform

/-!
# Following a path through schemas

A path is followed one segment at a time, with a look ahead at the next one.  `Schema.Reaches` says
which schema the segments lead to when each of them names a nested document, `Schema.Finds` which
field they end at, and `Schema.BreaksOff` where they cannot be followed.  One of the last two is the
case for every path, and following it comes out accordingly (`follow_of_finds`,
`follow_of_breaksOff`).  So a path that is made of two can be followed in two steps, the second of
them in the schema that the first one leads to (`resolve_composes`).
-/

namespace Sift

/-- The error with another path reported. -/
def FilterError.withPath (path : String) : FilterError → FilterError
  | unknownField _ segment schema => unknownField path segment schema
  | unsupportedFieldType _ typeName => unsupportedFieldType path typeName
  | error => error

theorem pathSegments_append (p q : String) :
    pathSegments (p ++ "." ++ q) = pathSegments p ++ pathSegments q := by
  have hchars : (p ++ "." ++ q).toList = p.toList ++ pathSeparator :: q.toList := by
    rw [String.toList_append, String.toList_append, List.append_assoc]
    rfl
  simp only [pathSegments, Text.pieces, hchars, List.splitOn_append_cons_self, List.map_append]

namespace Schema

variable {ι : Type} [Catalog ι]

/-- Each segment names a nested document in the schema that the ones before it lead to, and the
last one leads to the schema at the end. -/
inductive Reaches : Schema ι → List String → Schema ι → Prop where
  | here (schema : Schema ι) : Reaches schema [] schema
  | into {schema inner last : Schema ι} {type : FieldType ι} {segment : String}
      {rest : List String} (hfield : schema.field? segment = some type)
      (hinner : type.schema? = some inner) (hrest : Reaches inner rest last) :
    Reaches schema (segment :: rest) last

/-- All segments but the last lead to a schema, and the last one names a field of it. -/
def Finds (schema : Schema ι) (segments : List String) (type : FieldType ι) : Prop :=
  ∃ before segment inner, segments = before ++ [segment] ∧ schema.Reaches before inner ∧
    inner.field? segment = some type

/-- The segment to blame where the segments cannot be followed, and the name of what was looked
into. -/
inductive BreaksOff (schema : Schema ι) (segments : List String) : String → String → Prop where
  /-- The first segment that names no field of the schema it is looked up in. -/
  | missing {before after : List String} {segment : String} {inner : Schema ι}
      (hsegments : segments = before ++ segment :: after) (hreaches : schema.Reaches before inner)
      (hfield : inner.field? segment = none) :
    BreaksOff schema segments segment inner.name
  /-- The segment after the first one that names a field without fields of its own. -/
  | blocked {before after : List String} {segment next : String} {inner : Schema ι}
      {type : FieldType ι} (hsegments : segments = before ++ segment :: next :: after)
      (hreaches : schema.Reaches before inner) (hfield : inner.field? segment = some type)
      (hplain : type.schema? = none) :
    BreaksOff schema segments next type.text

variable {schema inner : Schema ι} {type : FieldType ι} {path segment next : String}
  {before after segments : List String}

theorem Reaches.concat (h : schema.Reaches before inner) {last : Schema ι}
    (hfield : inner.field? segment = some type) (hinner : type.schema? = some last) :
    schema.Reaches (before ++ [segment]) last := by
  induction h with
  | here schema => exact .into hfield hinner (.here last)
  | into hfield' hinner' _ ih => exact .into hfield' hinner' (ih hfield)

/-! ## Where following ends -/

theorem follow_cons_of_nested (path : String) (hfield : schema.field? segment = some type)
    (hinner : type.schema? = some inner) (hne : segments ≠ []) :
    schema.follow path (segment :: segments) = inner.follow path segments := by
  obtain ⟨next, after, rfl⟩ := List.exists_cons_of_ne_nil hne
  simp [follow, hfield, hinner]

/-- Following goes on in the schema that the segments so far lead to. -/
theorem follow_append (path : String) (h : schema.Reaches before inner) (hne : after ≠ []) :
    schema.follow path (before ++ after) = inner.follow path after := by
  induction h with
  | here schema => rfl
  | into hfield hinner _ ih =>
    rw [List.cons_append, follow_cons_of_nested path hfield hinner (by simp [hne]), ih]

theorem follow_of_finds (path : String) (h : schema.Finds segments type) :
    schema.follow path segments = .ok type := by
  obtain ⟨before, segment, inner, rfl, hreaches, hfield⟩ := h
  rw [follow_append path hreaches (List.cons_ne_nil segment [])]
  exact follow_single_eq_ok_iff.mpr hfield

theorem follow_of_breaksOff (path : String) {name : String}
    (h : schema.BreaksOff segments segment name) :
    schema.follow path segments = .error (.unknownField path segment name) := by
  cases h with
  | missing hsegments hreaches hfield =>
    rw [hsegments, follow_append path hreaches (List.cons_ne_nil _ _), follow, hfield]
  | blocked hsegments hreaches hfield hplain =>
    rw [hsegments, follow_append path hreaches (List.cons_ne_nil _ _), follow, hfield]
    simp only [hplain]

/-- Segments lead to a field or they break off. -/
theorem finds_or_breaksOff (schema : Schema ι) (hne : segments ≠ []) :
    (∃ type, schema.Finds segments type) ∨
      ∃ segment name, schema.BreaksOff segments segment name := by
  induction segments generalizing schema with
  | nil => exact absurd rfl hne
  | cons segment rest ih =>
    cases hfield : schema.field? segment with
    | none => exact .inr ⟨segment, schema.name, .missing rfl (.here schema) hfield⟩
    | some type =>
      cases rest with
      | nil => exact .inl ⟨type, [], segment, schema, rfl, .here schema, hfield⟩
      | cons next after =>
        cases hinner : type.schema? with
        | none => exact .inr ⟨next, type.text, .blocked rfl (.here schema) hfield hinner⟩
        | some inner =>
          -- what holds of the rest in the inner schema holds here, one segment further on
          rcases ih inner (List.cons_ne_nil next after) with
            ⟨last, hfinds⟩ | ⟨blamed, name, hbreaks⟩
          · obtain ⟨before, final, lower, hsegments, hreaches, hlast⟩ := hfinds
            have hdown : schema.Reaches (segment :: before) lower := .into hfield hinner hreaches
            exact .inl ⟨last, segment :: before, final, lower, by rw [hsegments]; rfl, hdown, hlast⟩
          · refine .inr ⟨blamed, name, ?_⟩
            cases hbreaks with
            | missing hsegments hreaches hmissing =>
              exact .missing (by rw [hsegments]; rfl) (.into hfield hinner hreaches) hmissing
            | blocked hsegments hreaches hlast hplain =>
              exact .blocked (by rw [hsegments]; rfl) (.into hfield hinner hreaches) hlast hplain

/-! ## The outcome of a path -/

theorem resolveField_eq_ok_iff :
    schema.resolveField path = .ok type ↔ schema.Finds (pathSegments path) type := by
  constructor
  · intro h
    have hne : pathSegments path ≠ [] := Text.pieces_ne_nil pathSeparator path
    rw [resolveField] at h
    rcases schema.finds_or_breaksOff hne with ⟨other, hfinds⟩ | ⟨segment, name, hbreaks⟩
    · rw [follow_of_finds path hfinds] at h
      exact Except.ok.inj h ▸ hfinds
    · rw [follow_of_breaksOff path hbreaks] at h
      cases h
  · intro h
    exact follow_of_finds path h

theorem resolveField_eq_error_iff {error : FilterError} :
    schema.resolveField path = .error error ↔
      ∃ segment name, schema.BreaksOff (pathSegments path) segment name ∧
        error = .unknownField path segment name := by
  constructor
  · intro h
    have hne : pathSegments path ≠ [] := Text.pieces_ne_nil pathSeparator path
    rw [resolveField] at h
    rcases schema.finds_or_breaksOff hne with ⟨type, hfinds⟩ | ⟨segment, name, hbreaks⟩
    · rw [follow_of_finds path hfinds] at h
      cases h
    · rw [follow_of_breaksOff path hbreaks] at h
      exact ⟨segment, name, hbreaks, (Except.error.inj h).symm⟩
  · rintro ⟨segment, name, hbreaks, rfl⟩
    exact follow_of_breaksOff path hbreaks

/-- The scalar type that a field has, or the error that it has none. -/
def scalarOf (path : String) (type : FieldType ι) : Except FilterError ScalarType :=
  match type with
  | .scalar scalar => .ok scalar
  | type => .error (.unsupportedFieldType path type.text)

theorem resolve_eq_bind (schema : Schema ι) (path : String) :
    schema.resolve path = (schema.resolveField path).bind (scalarOf path) := by
  unfold resolve
  cases schema.resolveField path with
  | error error => rfl
  | ok type => cases type <;> rfl

theorem scalarOf_eq_error_iff {error : FilterError} :
    scalarOf path type = .error error ↔
      (∀ scalar, type ≠ .scalar scalar) ∧ error = .unsupportedFieldType path type.text := by
  cases type <;> simp [scalarOf, eq_comm]

theorem resolve_eq_error_iff {error : FilterError} :
    schema.resolve path = .error error ↔
      schema.resolveField path = .error error ∨
        ∃ type, schema.resolveField path = .ok type ∧ (∀ scalar, type ≠ .scalar scalar) ∧
          error = .unsupportedFieldType path type.text := by
  rw [resolve_eq_bind, bind_eq_error_iff]
  simp only [scalarOf_eq_error_iff]

/-! ## The path that is reported -/

theorem follow_withPath (schema : Schema ι) (path other : String) (segments : List String) :
    schema.follow other segments = (schema.follow path segments).mapError (.withPath other) := by
  induction segments generalizing schema with
  | nil => rfl
  | cons segment rest ih =>
    unfold follow
    cases schema.field? segment with
    | none => rfl
    | some type =>
      cases rest with
      | nil => rfl
      | cons next after =>
        cases hinner : type.schema? with
        | none => simp [hinner, Except.mapError, FilterError.withPath]
        | some inner => simpa [hinner] using ih inner

theorem scalarOf_withPath (path other : String) (type : FieldType ι) :
    scalarOf other type = (scalarOf path type).mapError (.withPath other) := by
  cases type <;> rfl

/-- A path that goes on behind a nested document has the outcome that the rest has in the schema of
this document, with the whole path reported.  A path is found just if each segment but the last
names a nested document in the schema reached so far and the last one a field of it, and otherwise
it is blamed on the segment where it breaks off; a field that is found has a scalar type, or the
path is refused for its type. -/
theorem resolve_composes (schema : Schema ι) :
    (∀ (p q : String) (type : FieldType ι) (inner : Schema ι),
      schema.resolveField p = .ok type → type.schema? = some inner →
        schema.resolveField (p ++ "." ++ q) =
          (inner.resolveField q).mapError (.withPath (p ++ "." ++ q)) ∧
        schema.resolve (p ++ "." ++ q) =
          (inner.resolve q).mapError (.withPath (p ++ "." ++ q))) ∧
    ∀ path : String,
      (∀ type, schema.resolveField path = .ok type ↔ schema.Finds (pathSegments path) type) ∧
      (∀ error, schema.resolveField path = .error error ↔
        ∃ segment name, schema.BreaksOff (pathSegments path) segment name ∧
          error = .unknownField path segment name) ∧
      (∀ scalar, schema.resolve path = .ok scalar ↔
        schema.resolveField path = .ok (.scalar scalar)) ∧
      ∀ error, schema.resolve path = .error error ↔
        schema.resolveField path = .error error ∨
          ∃ type, schema.resolveField path = .ok type ∧ (∀ scalar, type ≠ .scalar scalar) ∧
            error = .unsupportedFieldType path type.text := by
  refine ⟨fun p q type inner hp hinner => ?_, fun path => ⟨fun type => resolveField_eq_ok_iff,
    fun error => resolveField_eq_error_iff, fun scalar => resolve_eq_ok_iff,
    fun error => resolve_eq_error_iff⟩⟩
  obtain ⟨before, segment, outer, hsegments, hreaches, hfield⟩ := resolveField_eq_ok_iff.mp hp
  have hp' : schema.Reaches (pathSegments p) inner := hsegments ▸ hreaches.concat hfield hinner
  have hfound : schema.resolveField (p ++ "." ++ q) =
      (inner.resolveField q).mapError (.withPath (p ++ "." ++ q)) := by
    have hne : pathSegments q ≠ [] := Text.pieces_ne_nil pathSeparator q
    rw [resolveField, pathSegments_append, follow_append _ hp' hne]
    exact follow_withPath inner q (p ++ "." ++ q) (pathSegments q)
  refine ⟨hfound, ?_⟩
  rw [resolve_eq_bind, resolve_eq_bind, hfound]
  cases inner.resolveField q with
  | error error => rfl
  | ok last => exact scalarOf_withPath q (p ++ "." ++ q) last

/-- The manager of an employee's manager is an employee, whose name has no fields. -/
theorem resolve_composes_managersOfManagers :
    let staff := RecordName.employeeSchema
    staff.resolveField "manager.manager" = .ok (.declared .employee) ∧
    (FieldType.declared RecordName.employee).schema? = some staff ∧
    staff.resolve "name.first" = .error (.unknownField "name.first" "first" "string") ∧
    staff.resolve "manager.manager.name.first" =
      .error (.unknownField "manager.manager.name.first" "first" "string") := by
  intro staff
  have hmanager : staff.resolveField "manager.manager" = .ok (.declared .employee) := rfl
  have hstaff : (FieldType.declared RecordName.employee).schema? = some staff := rfl
  have hname : staff.resolve "name.first" =
      .error (.unknownField "name.first" "first" "string") := rfl
  refine ⟨hmanager, hstaff, hname, ?_⟩
  have hcomposed :=
    ((resolve_composes staff).1 "manager.manager" "name.first" _ _ hmanager hstaff).2
  rw [hname] at hcomposed
  exact hcomposed

end Schema
end Sift
