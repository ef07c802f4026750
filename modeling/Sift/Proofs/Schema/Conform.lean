import Sift.Bson.Path
import Sift.Proofs.Bson.Same
import Sift.Proofs.Outcome
import Sift.Proofs.Text.Split
import Sift.Record.Name

/-!
# Paths in schemas and in documents

A schema and a document are followed along one path each for itself.  `Document.Conforms` says which
documents a schema describes, and `resolve_meets_lookup` that both walks end in the same place: where the
schema has a scalar type, such a document has a value stored for that type, a null or nothing.  A
path made of keys leads from one embedded document to the next, and nothing is found just where this
breaks off.
-/

namespace Sift

/-- The value is one that values of the type are stored as. -/
inductive ScalarType.Stores : ScalarType → Bson → Prop where
  | string (text : String) : Stores .string (.string text)
  | int32 (n : Int32) : Stores .int32 (.int32 n)
  | int64 (n : Int64) : Stores .int64 (.int64 n)
  | float (x : Double) : Stores .float (.double x)
  | double (x : Double) : Stores .double (.double x)
  | boolean (b : Bool) : Stores .boolean (.boolean b)
  | timestamp (millis : Int64) : Stores .timestamp (.datetime millis)
  | uuid (u : Uuid) : Stores .uuid (.uuid u)

theorem TypedValue.stores_toBson (v : TypedValue) : v.scalarType.Stores v.toBson := by
  cases v <;> constructor

variable {ι : Type} [Catalog ι]

/-- The value may stand in a field of the type: a null, a value stored for a scalar type, or a
document of which the same is true for a nested type.  A type that no text converts to asks for
nothing. -/
inductive FieldType.Admits : FieldType ι → Bson → Prop where
  | null (type : FieldType ι) : Admits type .null
  | scalar {type : ScalarType} {v : Bson} (h : type.Stores v) : Admits (.scalar type) v
  | nested {type : FieldType ι} {inner : Schema ι} {fields : Document}
      (hinner : type.schema? = some inner)
      (h : ∀ key type value, inner.field? key = some type → fields.get? key = some value →
        Admits type value) :
    Admits type (.document fields)
  | unsupported (typeName : String) (v : Bson) : Admits (.unsupported typeName) v

/-- Every field of the schema holds what its type admits, if it is there. -/
def Document.Conforms (schema : Schema ι) (d : Document) : Prop :=
  ∀ key type value, schema.field? key = some type → d.get? key = some value → type.Admits value

/-! ## One path through a schema and a document -/

namespace Schema

variable {schema : Schema ι} {path segment next : String} {rest : List String}

theorem follow_single_eq_ok_iff {type : FieldType ι} :
    schema.follow path [segment] = .ok type ↔ schema.field? segment = some type := by
  unfold follow
  cases schema.field? segment <;> simp

theorem follow_cons_eq_ok_iff {type : FieldType ι} :
    schema.follow path (segment :: next :: rest) = .ok type ↔
      ∃ outer inner, schema.field? segment = some outer ∧ outer.schema? = some inner ∧
        inner.follow path (next :: rest) = .ok type := by
  rw [follow]
  cases schema.field? segment with
  | none => simp
  | some outer => cases hinner : outer.schema? <;> simp [hinner]

theorem resolve_eq_ok_iff {type : ScalarType} :
    schema.resolve path = .ok type ↔
      schema.follow path (pathSegments path) = .ok (.scalar type) := by
  unfold resolve resolveField
  cases schema.follow path (pathSegments path) with
  | error error => simp [bind, Except.bind]
  | ok field =>
    cases field <;>
      simp [bind, Except.bind, pure, Except.pure, throw, throwThe, MonadExceptOf.throw]

end Schema

namespace Document

variable {d : Document} {key next : String} {rest : List String} {v : Bson}

theorem descend_cons_eq_some_iff :
    d.descend (key :: next :: rest) = some v ↔
      ∃ fields, d.get? key = some (.document fields) ∧
        Document.descend fields (next :: rest) = some v := by
  cases hvalue : d.get? key with
  | none => simp [Document.descend, hvalue]
  | some w => cases w <;> simp [Document.descend, hvalue]

theorem conforms_of_forall_mem {schema : Schema ι}
    (h : ∀ field ∈ d, ∀ type, schema.field? field.1 = some type → type.Admits field.2) :
    d.Conforms schema :=
  fun key type value htype hvalue => h (key, value) (mem_of_get? hvalue) type htype

theorem Conforms.descend {schema : Schema ι} {path : String} {segments : List String}
    {type : FieldType ι} (h : d.Conforms schema) (hfollow : schema.follow path segments = .ok type)
    (hdescend : d.descend segments = some v) : type.Admits v := by
  induction segments generalizing schema d with
  | nil => cases hdescend
  | cons key rest ih =>
    cases rest with
    | nil => exact h key type v (Schema.follow_single_eq_ok_iff.mp hfollow) hdescend
    | cons next rest =>
      -- both walks step down here, into the nested schema and the embedded document
      obtain ⟨outer, inner, houter, hinner, hfollow⟩ := Schema.follow_cons_eq_ok_iff.mp hfollow
      obtain ⟨fields, hfields, hdescend⟩ := descend_cons_eq_some_iff.mp hdescend
      have hadmits := h key outer (.document fields) houter hfields
      cases hadmits with
      | scalar => cases hinner
      | nested hinner' hinside =>
        rw [hinner, Option.some.injEq] at hinner'
        exact ih (hinner' ▸ hinside) hfollow hdescend
      | unsupported => cases hinner

end Document

/-! ## Paths made of keys -/

/-- The path that leads through embedded documents by these keys. -/
def joinPath (keys : List String) : String :=
  String.ofList ([pathSeparator].intercalate (keys.map String.toList))

theorem pathSegments_joinPath {keys : List String} (hne : keys ≠ [])
    (hfree : ∀ key ∈ keys, pathSeparator ∉ key.toList) : pathSegments (joinPath keys) = keys :=
  Text.pieces_of_toList_eq hfree hne String.toList_ofList

namespace Bson

/-- The value under a key, where the value is a document that has the key. -/
def child? (v : Bson) (key : String) : Option Bson := v.asDocument?.bind fun d => d.get? key

/-- Descending by keys breaks off at the first key that leads nowhere. -/
theorem foldlM_child?_eq_none_iff {keys : List String} {v : Bson} :
    keys.foldlM child? v = none ↔
      ∃ before key after w, keys = before ++ key :: after ∧
        before.foldlM child? v = some w ∧ w.child? key = none := by
  induction keys generalizing v with
  | nil => simp
  | cons key keys ih =>
    rw [List.foldlM_cons]
    cases hchild : v.child? key with
    | none =>
      simp only [Option.bind_eq_bind, Option.bind_none, true_iff]
      exact ⟨[], key, keys, v, rfl, rfl, hchild⟩
    | some w =>
      simp only [Option.bind_eq_bind, Option.bind_some, ih]
      constructor
      · rintro ⟨before, next, after, x, rfl, hbefore, hnext⟩
        refine ⟨key :: before, next, after, x, rfl, ?_, hnext⟩
        rw [List.foldlM_cons, hchild]
        exact hbefore
      · rintro ⟨before, next, after, x, hkeys, hbefore, hnext⟩
        cases before with
        | nil =>
          rw [List.nil_append, List.cons.injEq] at hkeys
          rw [List.foldlM_nil, Option.pure_def, Option.some.injEq] at hbefore
          rw [← hkeys.1, ← hbefore, hchild] at hnext
          cases hnext
        | cons first before =>
          rw [List.cons_append, List.cons.injEq] at hkeys
          rw [List.foldlM_cons, ← hkeys.1, hchild] at hbefore
          exact ⟨before, next, after, x, hkeys.2, hbefore, hnext⟩

theorem child?_eq_none_iff {v : Bson} {key : String} :
    v.child? key = none ↔
      v.asDocument? = none ∨ ∃ d : Document, v = .document d ∧ d.get? key = none := by
  cases v <;> simp [child?, asDocument?]

end Bson

theorem Document.descend_eq_foldlM {keys : List String} (hne : keys ≠ []) (d : Document) :
    d.descend keys = keys.foldlM Bson.child? (.document d) := by
  induction keys generalizing d with
  | nil => exact absurd rfl hne
  | cons key rest ih =>
    have hchild : (Bson.document d).child? key = d.get? key := rfl
    rw [List.foldlM_cons, hchild]
    cases rest with
    | nil => cases hvalue : d.get? key <;> simp [descend, hvalue]
    | cons next rest =>
      cases hvalue : d.get? key with
      | none => simp [descend, hvalue]
      | some w =>
        cases w with
        | document fields =>
          have hdescend : d.descend (key :: next :: rest) =
              Document.descend fields (next :: rest) := by
            simp [descend, hvalue]
          rw [hdescend, ih (List.cons_ne_nil next rest)]
          rfl
        | _ => simp [descend, hvalue, Bson.child?, Bson.asDocument?]

/-- A path that a schema resolves to a scalar type leads, in every document that conforms to the
schema, to a value stored for this type, to a null or to nothing.  A path made of keys leads where
descending key by key does, which is nowhere just if a key is missing or a value on the way is not a
document. -/
theorem resolve_meets_lookup :
    (∀ (schema : Schema ι) (d : Document) (path : String) (type : ScalarType),
      d.Conforms schema → schema.resolve path = .ok type →
        d.lookup path = none ∨ d.lookup path = some .null ∨
          ∃ v, d.lookup path = some v ∧ type.Stores v) ∧
    (∀ v : TypedValue, v.scalarType.Stores v.toBson) ∧
    ∀ (d : Document) (keys : List String), keys ≠ [] →
      (∀ key ∈ keys, pathSeparator ∉ key.toList) →
        d.lookup (joinPath keys) = keys.foldlM Bson.child? (.document d) ∧
        (d.lookup (joinPath keys) = none ↔
          ∃ before key after w, keys = before ++ key :: after ∧
            before.foldlM Bson.child? (.document d) = some w ∧
            (w.asDocument? = none ∨ ∃ e : Document, w = .document e ∧ e.get? key = none)) := by
  refine ⟨fun schema d path type hconforms hresolve => ?_, TypedValue.stores_toBson,
    fun d keys hne hfree => ?_⟩
  · have hfollow := Schema.resolve_eq_ok_iff.mp hresolve
    cases hlookup : d.lookup path with
    | none => exact .inl rfl
    | some v =>
      have hadmits := hconforms.descend hfollow hlookup
      cases hadmits with
      | null => exact .inr (.inl rfl)
      | scalar hstores => exact .inr (.inr ⟨v, rfl, hstores⟩)
      | nested hinner => cases hinner
  · have hlookup : d.lookup (joinPath keys) = keys.foldlM Bson.child? (.document d) := by
      rw [Document.lookup, pathSegments_joinPath hne hfree]
      exact Document.descend_eq_foldlM hne d
    refine ⟨hlookup, ?_⟩
    rw [hlookup, Bson.foldlM_child?_eq_none_iff]
    simp only [Bson.child?_eq_none_iff]

/-- An employee and the manager, who has a note that the schema does not know. -/
def managedEmployee : Document :=
  [("level", .int64 3),
    ("manager", .document [("name", .string "Bo"), ("note", .array []), ("manager", .null)])]

theorem conforms_managedEmployee : managedEmployee.Conforms RecordName.employeeSchema := by
  have hmanager : (FieldType.declared RecordName.employee).Admits (.document
      [("name", .string "Bo"), ("note", .array []), ("manager", .null)]) := by
    refine .nested rfl (Document.conforms_of_forall_mem fun field hfield type htype => ?_)
    simp only [List.mem_cons, List.not_mem_nil, or_false] at hfield
    rcases hfield with rfl | rfl | rfl
    · cases Option.some.inj htype
      exact .scalar (.string "Bo")
    · cases htype
    · exact .null type
  refine Document.conforms_of_forall_mem fun field hfield type htype => ?_
  simp only [managedEmployee, List.mem_cons, List.not_mem_nil, or_false] at hfield
  rcases hfield with rfl | rfl
  · cases Option.some.inj htype
    exact .scalar (.int64 3)
  · cases Option.some.inj htype
    exact hmanager

theorem resolve_meets_lookup_managedEmployee :
    let keys := ["manager", "manager", "name"]
    (managedEmployee.Conforms RecordName.employeeSchema ∧
      RecordName.employeeSchema.resolve "manager.name" = .ok .string ∧
      ∃ v, managedEmployee.lookup "manager.name" = some v ∧ ScalarType.string.Stores v) ∧
    keys ≠ [] ∧ (∀ key ∈ keys, pathSeparator ∉ key.toList) ∧
      managedEmployee.lookup (joinPath keys) = none := by
  intro keys
  have hne : keys ≠ [] := by decide
  have hfree : ∀ key ∈ keys, pathSeparator ∉ key.toList := by decide
  have hresolve : RecordName.employeeSchema.resolve "manager.name" = .ok .string := rfl
  have hname : managedEmployee.lookup "manager.name" = some (.string "Bo") := rfl
  obtain ⟨hresolved, -, hkeys⟩ := @resolve_meets_lookup RecordName _
  refine ⟨⟨conforms_managedEmployee, hresolve, ?_⟩, hne, hfree, ?_⟩
  · have hfound := hresolved _ _ _ _ conforms_managedEmployee hresolve
    simpa [hname] using hfound
  · -- the manager of the manager is a null
    refine (hkeys managedEmployee keys hne hfree).2.mpr ?_
    exact ⟨["manager", "manager"], "name", [], .null, rfl, rfl, .inl rfl⟩

end Sift
