import Sift.Filter.Criteria
import Sift.Proofs.FirstSeen
import Sift.Proofs.Outcome

/-!
# Criteria field by field

Building a query adds one entry after the other to the criteria of all fields.  `perField` says what
comes out for each field from the entries on that field alone, and `build_perField` that building
gives just this: an entry on one field has no say in the criterion of another, in whatever order
entries on different fields come.
-/

namespace Sift

/-- The value as it is stored. -/
def FilterValue.toBson : FilterValue → Bson
  | .single value => value.toBson
  | .set values => .array (values.values.map TypedValue.toBson)

namespace FilterEntry

/-- The clause of an entry whose value suits its operator. -/
def clause (e : FilterEntry) : Operator × Bson := (e.op, e.value.toBson)

/-- How the value of an entry contradicts its operator. -/
inductive Contradicts : FilterEntry → ShapeFault → Prop where
  | needsSingle {field op values} (h : op.isMulti = false) :
    Contradicts ⟨field, op, .set values⟩ (.needsSingle op field)
  | needsSet {field op value} (h : op.isMulti = true) :
    Contradicts ⟨field, op, .single value⟩ (.needsSet op field)
  | patternNotText {field} {value : TypedValue} (h : value.scalarType ≠ .string) :
    Contradicts ⟨field, .regex, .single value⟩ (.patternNotText field value.scalarType)

theorem clauseValue_of_contradicts {e : FilterEntry} {fault : ShapeFault}
    (h : e.Contradicts fault) : e.clauseValue = .error fault := by
  cases h with
  | needsSingle h => simp [clauseValue, h]
  | needsSet h => simp [clauseValue, h]
  | @patternNotText field value h =>
    have hsome : ¬ value.asText?.isSome = true := fun hs => h (TypedValue.asText?_isSome_iff.mp hs)
    have hnone : value.asText? = none := by simpa using hsome
    simp [clauseValue, Operator.isMulti, hnone]

theorem clauseValue_of_suits {e : FilterEntry} (h : ∀ fault, ¬ e.Contradicts fault) :
    e.clauseValue = .ok e.value.toBson := by
  obtain ⟨field, op, value⟩ := e
  cases value with
  | set values =>
    cases hop : op.isMulti with
    | false => exact absurd (.needsSingle hop) (h _)
    | true => simp [clauseValue, hop, FilterValue.toBson]
  | single value =>
    cases hop : op.isMulti with
    | true => exact absurd (.needsSet hop) (h _)
    | false =>
      have htext : op = .regex → value.asText? ≠ none := by
        rintro rfl hnone
        refine absurd (.patternNotText fun htype => ?_) (h _)
        have hsome := TypedValue.asText?_isSome_iff.mpr htype
        simp [hnone] at hsome
      simpa [clauseValue, hop, FilterValue.toBson] using htext

theorem clauseValue_eq_error_iff {e : FilterEntry} {fault : ShapeFault} :
    e.clauseValue = .error fault ↔ e.Contradicts fault := by
  refine ⟨fun h => ?_, clauseValue_of_contradicts⟩
  by_cases hsuits : ∀ fault, ¬ e.Contradicts fault
  · rw [clauseValue_of_suits hsuits] at h
    cases h
  · obtain ⟨fault', h'⟩ := not_forall_not.mp hsuits
    rw [clauseValue_of_contradicts h'] at h
    exact Except.error.inj h ▸ h'

theorem exists_clauseValue_iff {e : FilterEntry} :
    (∃ value, e.clauseValue = .ok value) ↔ ∀ fault, ¬ e.Contradicts fault := by
  refine ⟨fun ⟨value, hvalue⟩ fault hfault => ?_, fun h => ⟨_, clauseValue_of_suits h⟩⟩
  rw [clauseValue_of_contradicts hfault] at hvalue
  cases hvalue

end FilterEntry

namespace Criteria

/-! ## Criteria and their places -/

/-- Adds a clause to the criterion that has its field. -/
def add (criteria : List Criterion) (field : String) (op : Operator) (value : Bson) :
    List Criterion :=
  let clause :=
    match Keyed.get? Criterion.field field criteria with
    | some existing => if op.isRange then existing.and op value else .single field op value
    | none => .single field op value
  Keyed.put Criterion.field clause criteria

/-- Adds the clause of an entry whose value suits its operator. -/
def step (criteria : List Criterion) (e : FilterEntry) : List Criterion :=
  add criteria e.field e.op e.value.toBson

namespace Draft

/-- No field has two criteria, and the map has the place of each field that has one. -/
structure Linked (d : Draft) : Prop where
  nodup_fields : (d.criteria.map Criterion.field).Nodup
  get?_eq_some_iff : ∀ field place, d.positions.get? field = some place ↔
    (d.criteria.map Criterion.field)[place]? = some field

theorem Linked.empty : Linked .empty := ⟨.nil, by simp [Draft.empty, HashMap.get?_empty]⟩

variable {d : Draft}

theorem Linked.mem_fields_iff (h : d.Linked) {field : String} :
    field ∈ d.criteria.map Criterion.field ↔ ∃ place, d.positions.get? field = some place := by
  simp only [List.mem_iff_getElem?, h.get?_eq_some_iff]

theorem Linked.not_mem_fields (h : d.Linked) {field : String}
    (hnew : d.positions.get? field = none) : field ∉ d.criteria.map Criterion.field := by
  rw [h.mem_fields_iff, hnew]
  exact fun ⟨_, hplace⟩ => nomatch hplace

/-- Where the map has a place for a field, the criterion of the field stands there. -/
theorem Linked.exists_criterion (h : d.Linked) {field : String} {place : Nat}
    (hplace : d.positions.get? field = some place) :
    ∃ c, d.criteria[place]? = some c ∧ c.field = field := by
  rw [h.get?_eq_some_iff, List.getElem?_map] at hplace
  exact Option.map_eq_some_iff.mp hplace

/-- A criterion that takes the place of the one with its field. -/
theorem Linked.set (h : d.Linked) {place : Nat} {c c' : Criterion}
    (hc : d.criteria[place]? = some c) (hfield : c'.field = c.field) :
    Linked { d with criteria := d.criteria.set place c' } := by
  have hfields : (d.criteria.set place c').map Criterion.field = d.criteria.map Criterion.field := by
    obtain ⟨hlt, rfl⟩ := List.getElem?_eq_some_iff.mp hc
    rw [List.map_set, hfield, ← List.getElem_map Criterion.field, List.set_getElem_self]
    simpa using hlt
  exact ⟨hfields ▸ h.nodup_fields, fun field place => hfields ▸ h.get?_eq_some_iff field place⟩

/-- A criterion for a field that has none. -/
theorem Linked.push (h : d.Linked) {c : Criterion} (hnew : d.positions.get? c.field = none) :
    Linked ⟨d.criteria ++ [c], d.positions.insert c.field d.criteria.length⟩ := by
  have hmem := h.not_mem_fields hnew
  refine ⟨?_, fun field place => ?_⟩
  · rw [List.map_append, List.map_singleton, List.nodup_append]
    refine ⟨h.nodup_fields, by simp, fun a ha b hb e => hmem ?_⟩
    rwa [← List.mem_singleton.mp hb, ← e]
  · rw [HashMap.get?_insert, List.map_append, List.map_singleton]
    by_cases hfield : c.field = field
    · subst hfield
      have hnone : (d.criteria.map Criterion.field)[place]? ≠ some c.field :=
        fun e => hmem (List.mem_of_getElem? e)
      rw [beq_self_eq_true, if_pos rfl, Option.some.injEq, List.getElem?_append]
      split
      · rename_i hlt
        rw [List.length_map] at hlt
        exact ⟨fun e => absurd e (by omega), fun e => absurd e hnone⟩
      · rename_i hge
        rw [List.length_map] at hge ⊢
        rw [List.getElem?_singleton, ite_eq_left_iff]
        simp only [reduceCtorEq, imp_false, not_not]
        omega
    · rw [beq_eq_false_iff_ne.mpr hfield, if_neg Bool.false_ne_true, h.get?_eq_some_iff,
        List.getElem?_append]
      split
      · rfl
      · rename_i hge
        rw [List.getElem?_eq_none (Nat.le_of_not_lt hge), List.getElem?_singleton]
        split <;> simp [hfield]

/-- A draft that is linked takes a clause as its criteria alone would, and stays linked. -/
theorem Linked.add (h : d.Linked) (field : String) (op : Operator) (value : Bson) :
    (d.add field op value).Linked ∧
      (d.add field op value).criteria = Criteria.add d.criteria field op value := by
  unfold Draft.add Criteria.add
  cases hplace : d.positions.get? field with
  | none =>
    have hmem := h.not_mem_fields hplace
    have hnone : Keyed.get? Criterion.field field d.criteria = none :=
      List.find?_eq_none.mpr fun c hc e => hmem (of_decide_eq_true e ▸ List.mem_map_of_mem hc)
    refine ⟨h.push (c := .single field op value) hplace, ?_⟩
    simp only [hnone]
    exact (Keyed.put_eq _ _ h.nodup_fields).trans (if_neg hmem) |>.symm
  | some place =>
    obtain ⟨c, hc, rfl⟩ := h.exists_criterion hplace
    have hsome : Keyed.get? Criterion.field c.field d.criteria = some c :=
      Keyed.get?_of_mem _ h.nodup_fields (List.mem_of_getElem? hc)
    have hmodify : d.criteria.modify place (fun c => c.and op value) =
        d.criteria.set place (c.and op value) := by
      rw [List.modify_eq_set_getElem?, hc]
      rfl
    simp only [hsome, hmodify]
    have hput : ∀ c' : Criterion, c'.field = c.field →
        d.criteria.set place c' = Keyed.put Criterion.field c' d.criteria :=
      fun c' hfield => (Keyed.put_eq_set _ h.nodup_fields hc hfield.symm).symm
    cases op.isRange with
    | true => exact ⟨h.set hc rfl, hput _ rfl⟩
    | false => exact ⟨h.set hc rfl, hput _ rfl⟩

end Draft

/-! ## Which entries fail -/

/-- The criteria after entries whose values suit their operators, without the places. -/
theorem addAll_of_suits {entries : List FilterEntry}
    (h : ∀ e ∈ entries, ∀ fault, ¬ e.Contradicts fault) {d : Draft} (hd : d.Linked) :
    ∃ made : Draft, d.addAll entries = .ok made ∧ made.Linked ∧
      made.criteria = entries.foldl step d.criteria := by
  induction entries generalizing d with
  | nil => exact ⟨d, rfl, hd, rfl⟩
  | cons e entries ih =>
    have hvalue := FilterEntry.clauseValue_of_suits (h e (by simp))
    obtain ⟨hlinked, hcriteria⟩ := hd.add e.field e.op e.value.toBson
    obtain ⟨made, hmade, hmadeLinked, hmadeCriteria⟩ :=
      ih (fun e' he' => h e' (by simp [he'])) hlinked
    refine ⟨made, ?_, hmadeLinked, ?_⟩
    · rw [Draft.addAll, hvalue]
      exact hmade
    · rw [hmadeCriteria, hcriteria]
      rfl

theorem addAll_eq_error_iff {d : Draft} {entries : List FilterEntry} {fault : ShapeFault} :
    d.addAll entries = .error fault ↔ FirstFailure FilterEntry.clauseValue entries fault := by
  induction entries generalizing d with
  | nil => simp [Draft.addAll, FirstFailure]
  | cons e entries ih =>
    unfold Draft.addAll
    cases hvalue : e.clauseValue with
    | error fault' =>
      rw [FirstFailure.cons_error hvalue]
      simp
    | ok value =>
      rw [FirstFailure.cons_ok hvalue]
      exact ih

/-! ## The clauses of one field -/

/-- The entries of a field that count: those from the last one on that is no range bound, or all
if there is none such. -/
def counting : List FilterEntry → List FilterEntry
  | [] => []
  | e :: entries =>
    if entries.any fun later => !later.op.isRange then counting entries else e :: entries

/-- The clauses with one more, which takes the place of the one with its operator or, if there is
none, comes last. -/
def withClause (clauses : List (Operator × Bson)) (clause : Operator × Bson) :
    List (Operator × Bson) :=
  if clause.1 ∈ clauses.map Prod.fst then
    clauses.map fun c => if c.1 = clause.1 then clause else c
  else clauses ++ [clause]

/-- The clauses that the entries of one field make. -/
def fieldClauses (entries : List FilterEntry) : List (Operator × Bson) :=
  match counting entries with
  | [] => []
  | first :: later => (later.map FilterEntry.clause).foldl withClause [first.clause]

def onField (entries : List FilterEntry) (field : String) : List FilterEntry :=
  entries.filter fun e => e.field = field

/-- One criterion for each field, in the order in which the fields first come, from the entries on
that field. -/
def perField (entries : List FilterEntry) : List Criterion :=
  (entries.map FilterEntry.field).eraseDups.map fun field =>
    ⟨field, fieldClauses (onField entries field)⟩

theorem counting_concat (entries : List FilterEntry) (e : FilterEntry) :
    counting (entries ++ [e]) = if e.op.isRange then counting entries ++ [e] else [e] := by
  induction entries with
  | nil => simp [counting]
  | cons x entries ih =>
    simp only [List.cons_append, counting, List.any_append, ih]
    cases he : e.op.isRange with
    | false => simp [he]
    | true => by_cases hlater : (entries.any fun later => !later.op.isRange) = true <;>
        simp [he, hlater]

/-- The entries that count begin with the last one that is no range bound, or with the first of
all, and go on with range bounds only. -/
theorem exists_counting {entries : List FilterEntry} (h : entries ≠ []) :
    ∃ before first later, entries = before ++ first :: later ∧
      counting entries = first :: later ∧
      (before = [] ∨ first.op.isRange = false) ∧ ∀ e ∈ later, e.op.isRange = true := by
  induction entries using List.reverseRecOn with
  | nil => exact absurd rfl h
  | append_singleton entries e ih =>
    rw [counting_concat]
    by_cases hrange : e.op.isRange = true
    · rw [if_pos hrange]
      by_cases hnil : entries = []
      · exact ⟨[], e, [], by simp [hnil], by simp [hnil, counting], .inl rfl, by simp⟩
      · obtain ⟨before, first, later, hentries, hcount, hfirst, hlater⟩ := ih hnil
        refine ⟨before, first, later ++ [e], by simp [hentries], by simp [hcount], hfirst, ?_⟩
        intro x hx
        rcases List.mem_append.mp hx with hx | hx
        · exact hlater x hx
        · exact List.mem_singleton.mp hx ▸ hrange
    · rw [if_neg hrange]
      exact ⟨entries, e, [], rfl, rfl, .inr (by simpa using hrange), by simp⟩

/-- A range bound joins the clauses that are there, and any other entry starts anew. -/
theorem fieldClauses_concat (entries : List FilterEntry) (e : FilterEntry) :
    fieldClauses (entries ++ [e]) =
      if e.op.isRange ∧ entries ≠ [] then withClause (fieldClauses entries) e.clause
      else [e.clause] := by
  unfold fieldClauses
  rw [counting_concat]
  by_cases hrange : e.op.isRange = true
  · by_cases hnil : entries = []
    · simp [hnil, counting]
    · obtain ⟨_, first, later, _, hcount, _⟩ := exists_counting hnil
      simp [hrange, hnil, hcount]
  · simp [hrange]

/-- What holds of no clauses and of the one that an entry starts with, and stays when a range bound
joins, holds of the clauses of a field. -/
theorem fieldClauses_induction {motive : List (Operator × Bson) → Prop}
    {entries : List FilterEntry} (nil : motive [])
    (start : ∀ e ∈ entries, motive [e.clause])
    (join : ∀ e ∈ entries, e.op.isRange = true → ∀ clauses, motive clauses →
      motive (withClause clauses e.clause)) :
    motive (fieldClauses entries) := by
  -- from the end: the last entry decides whether the clauses of those before it stay
  induction entries using List.reverseRecOn with
  | nil => simpa [fieldClauses, counting] using nil
  | append_singleton entries e ih =>
    rw [fieldClauses_concat]
    split
    · rename_i hrange
      refine join e (by simp) hrange.1 _ (ih ?_ ?_)
      · exact fun x hx => start x (List.mem_append_left _ hx)
      · exact fun x hx => join x (List.mem_append_left _ hx)
    · exact start e (by simp)

theorem withClause_eq_put {clauses : List (Operator × Bson)}
    (h : (clauses.map Prod.fst).Nodup) (clause : Operator × Bson) :
    withClause clauses clause = Keyed.put Prod.fst clause clauses :=
  (Keyed.put_eq Prod.fst clause h).symm

theorem nodup_fieldClauses (entries : List FilterEntry) :
    ((fieldClauses entries).map Prod.fst).Nodup := by
  refine fieldClauses_induction (motive := fun clauses => (clauses.map Prod.fst).Nodup)
    (by simp) (by simp) ?_
  intro e _ _ clauses ih
  rw [withClause_eq_put ih]
  exact Keyed.nodup_put _ _ ih

theorem mem_withClause {clauses : List (Operator × Bson)} {clause c : Operator × Bson}
    (h : c ∈ withClause clauses clause) : c = clause ∨ c ∈ clauses := by
  unfold withClause at h
  split at h
  · obtain ⟨d, hd, rfl⟩ := List.mem_map.mp h
    split
    · exact .inl rfl
    · exact .inr hd
  · rw [List.mem_append, List.mem_singleton] at h
    exact h.symm

/-- Each clause of a field comes from one of its entries. -/
theorem exists_entry_of_mem_fieldClauses (entries : List FilterEntry) :
    ∀ clause ∈ fieldClauses entries, ∃ e ∈ entries, e.clause = clause := by
  refine fieldClauses_induction
    (motive := fun clauses => ∀ clause ∈ clauses, ∃ e ∈ entries, e.clause = clause)
    (by simp) ?_ ?_
  · intro e he clause hclause
    exact ⟨e, he, (List.mem_singleton.mp hclause).symm⟩
  · intro e he _ clauses ih clause hclause
    rcases mem_withClause hclause with rfl | hclause
    · exact ⟨e, he, rfl⟩
    · exact ih clause hclause

theorem mem_tail_withClause {clauses : List (Operator × Bson)} {clause c : Operator × Bson}
    (h : c ∈ (withClause clauses clause).tail) : c = clause ∨ c ∈ clauses.tail := by
  unfold withClause at h
  split at h
  · rw [← List.map_tail] at h
    obtain ⟨d, hd, rfl⟩ := List.mem_map.mp h
    split
    · exact .inl rfl
    · exact .inr hd
  · cases clauses with
    | nil => simp at h
    | cons d clauses =>
      simp only [List.cons_append, List.tail_cons, List.mem_append, List.mem_singleton] at h
      exact h.symm

theorem isRange_of_mem_tail (entries : List FilterEntry) :
    ∀ clause ∈ (fieldClauses entries).tail, clause.1.isRange = true := by
  refine fieldClauses_induction
    (motive := fun clauses => ∀ clause ∈ clauses.tail, clause.1.isRange = true)
    (by simp) (by simp) ?_
  intro e _ hrange clauses ih clause hclause
  rcases mem_tail_withClause hclause with rfl | hclause
  · exact hrange
  · exact ih clause hclause

/-! ## All fields together -/

theorem fields_perField (entries : List FilterEntry) :
    (perField entries).map Criterion.field = (entries.map FilterEntry.field).eraseDups := by
  rw [perField, List.map_map]
  exact List.map_id _

theorem nodup_fields_perField (entries : List FilterEntry) :
    ((perField entries).map Criterion.field).Nodup := by
  rw [fields_perField]
  exact nodup_eraseDups _

theorem mem_fields_perField {entries : List FilterEntry} {field : String} :
    field ∈ (perField entries).map Criterion.field ↔ field ∈ entries.map FilterEntry.field := by
  rw [fields_perField, List.mem_eraseDups]

theorem get?_perField_of_mem {entries : List FilterEntry} {field : String}
    (h : field ∈ entries.map FilterEntry.field) :
    Keyed.get? Criterion.field field (perField entries) =
      some ⟨field, fieldClauses (onField entries field)⟩ :=
  Keyed.get?_of_mem Criterion.field (nodup_fields_perField entries)
    (List.mem_map_of_mem (List.mem_eraseDups.mpr h))

theorem get?_perField_of_not_mem {entries : List FilterEntry} {field : String}
    (h : field ∉ entries.map FilterEntry.field) :
    Keyed.get? Criterion.field field (perField entries) = none := by
  rw [← mem_fields_perField] at h
  refine List.find?_eq_none.mpr fun c hc e => h ?_
  rw [← of_decide_eq_true e]
  exact List.mem_map_of_mem hc

theorem exists_entry_of_mem_perField {entries : List FilterEntry} {c : Criterion}
    (hc : c ∈ perField entries) {clause : Operator × Bson} (h : clause ∈ c.clauses) :
    ∃ e ∈ entries, e.field = c.field ∧ e.clause = clause := by
  obtain ⟨field, _, rfl⟩ := List.mem_map.mp hc
  obtain ⟨e, he, hclause⟩ := exists_entry_of_mem_fieldClauses _ clause h
  rw [onField, List.mem_filter, decide_eq_true_eq] at he
  exact ⟨e, he.1, he.2, hclause⟩

theorem onField_concat (entries : List FilterEntry) (e : FilterEntry) (field : String) :
    onField (entries ++ [e]) field =
      if e.field = field then onField entries field ++ [e] else onField entries field := by
  by_cases h : e.field = field <;> simp [onField, h]

theorem onField_eq_nil_iff {entries : List FilterEntry} {field : String} :
    onField entries field = [] ↔ field ∉ entries.map FilterEntry.field := by
  simp only [onField, List.filter_eq_nil_iff, decide_eq_true_eq, List.mem_map]
  exact ⟨fun h ⟨e, he, hf⟩ => h e he hf, fun h e he hf => h ⟨e, he, hf⟩⟩

/-- One step of building changes the criterion of one field, and as its entries say. -/
theorem step_perField (entries : List FilterEntry) (e : FilterEntry) :
    step (perField entries) e =
      Keyed.put Criterion.field ⟨e.field, fieldClauses (onField (entries ++ [e]) e.field)⟩
        (perField entries) := by
  rw [onField_concat, if_pos rfl, fieldClauses_concat]
  unfold step add
  by_cases hmem : e.field ∈ entries.map FilterEntry.field
  · have hne : onField entries e.field ≠ [] := fun h => onField_eq_nil_iff.mp h hmem
    rw [get?_perField_of_mem hmem]
    cases hrange : e.op.isRange with
    | false => simp [Criterion.single, FilterEntry.clause]
    | true =>
      simp only [hne, ne_eq, not_false_eq_true, and_self, if_true, Criterion.and]
      rw [withClause_eq_put (nodup_fieldClauses _)]
      rfl
  · have hnil : onField entries e.field = [] := onField_eq_nil_iff.mpr hmem
    rw [get?_perField_of_not_mem hmem]
    simp [hnil, Criterion.single, FilterEntry.clause]

theorem perField_concat (entries : List FilterEntry) (e : FilterEntry) :
    perField (entries ++ [e]) = step (perField entries) e := by
  rw [step_perField, Keyed.put_eq _ _ (nodup_fields_perField entries)]
  simp only [mem_fields_perField]
  -- the new entry has no say in the criteria of other fields
  have hother : ∀ field, field ≠ e.field →
      onField (entries ++ [e]) field = onField entries field := by
    intro field hne
    rw [onField_concat, if_neg fun h => hne h.symm]
  by_cases hmem : e.field ∈ entries.map FilterEntry.field
  · rw [if_pos hmem, perField, perField, List.map_append, List.map_singleton, eraseDups_concat,
      if_pos (List.contains_iff_mem.mpr hmem), List.map_map]
    refine List.map_congr_left fun field _ => ?_
    by_cases hf : field = e.field
    · simp [hf]
    · simp [hf, hother field hf]
  · have hnew : ¬ (entries.map FilterEntry.field).contains e.field = true :=
      fun h => hmem (List.contains_iff_mem.mp h)
    rw [if_neg hmem, perField, perField, List.map_append, List.map_singleton, eraseDups_concat,
      if_neg hnew, List.map_append, List.map_singleton]
    congr 1
    refine List.map_congr_left fun field hfield => ?_
    have hf : field ≠ e.field := fun h => hmem (h ▸ List.mem_eraseDups.mp hfield)
    rw [hother field hf]

theorem foldl_step (entries : List FilterEntry) :
    entries.foldl step [] = perField entries := by
  induction entries using List.reverseRecOn with
  | nil => rfl
  | append_singleton entries e ih =>
    rw [List.foldl_append, ih, perField_concat]
    rfl

theorem build_of_suits {entries : List FilterEntry}
    (h : ∀ e ∈ entries, ∀ fault, ¬ e.Contradicts fault) :
    build entries = .ok { Query.empty with criteria := perField entries } := by
  obtain ⟨made, hmade, -, hcriteria⟩ := addAll_of_suits h .empty
  simp only [build, hmade, hcriteria, ← foldl_step]
  rfl

/-- Building fails for the first entry whose value contradicts its operator.  Otherwise it gives one
criterion for each field, in the order in which the fields first come.  The clauses of a field start
with its last entry that is no range bound, or with its first entry, and each later entry takes the
place of the clause with its operator or comes last. -/
theorem build_perField (entries : List FilterEntry) :
    (∀ error, build entries = .error error ↔
      ∃ before e after fault, entries = before ++ e :: after ∧
        (∀ b ∈ before, ∀ fault, ¬ b.Contradicts fault) ∧ e.Contradicts fault ∧
        error = .invariantViolation fault) ∧
    ((∀ e ∈ entries, ∀ fault, ¬ e.Contradicts fault) →
      build entries = .ok { Query.empty with criteria := perField entries }) ∧
    (perField entries).map Criterion.field = (entries.map FilterEntry.field).eraseDups ∧
    ((perField entries).map Criterion.field).Nodup ∧
    ∀ c ∈ perField entries,
      (∃ before first later, onField entries c.field = before ++ first :: later ∧
        (before = [] ∨ first.op.isRange = false) ∧ (∀ e ∈ later, e.op.isRange = true) ∧
        c.clauses = (later.map FilterEntry.clause).foldl withClause [first.clause]) ∧
      (c.clauses.map Prod.fst).Nodup ∧
      ∀ clause ∈ c.clauses.tail, clause.1.isRange = true := by
  refine ⟨fun error => ?_, build_of_suits, fields_perField entries, nodup_fields_perField entries,
    ?_⟩
  · have hbuild : build entries = .error error ↔
        ∃ fault, Draft.empty.addAll entries = .error fault ∧
          error = .invariantViolation fault := by
      unfold build
      cases Draft.empty.addAll entries with
      | error fault => simp [eq_comm]
      | ok criteria => simp
    simp only [hbuild, addAll_eq_error_iff, FirstFailure, FilterEntry.exists_clauseValue_iff,
      FilterEntry.clauseValue_eq_error_iff]
    constructor
    · rintro ⟨fault, ⟨before, e, after, h⟩, herror⟩
      exact ⟨before, e, after, fault, h.1, h.2.1, h.2.2, herror⟩
    · rintro ⟨before, e, after, fault, hentries, hbefore, he, herror⟩
      exact ⟨fault, ⟨before, e, after, hentries, hbefore, he⟩, herror⟩
  · intro c hc
    obtain ⟨field, hfield, rfl⟩ := List.mem_map.mp hc
    have hne : onField entries field ≠ [] :=
      fun h => onField_eq_nil_iff.mp h (List.mem_eraseDups.mp hfield)
    obtain ⟨before, first, later, hentries, hcount, hfirst, hlater⟩ := exists_counting hne
    refine ⟨⟨before, first, later, hentries, hfirst, hlater, ?_⟩, nodup_fieldClauses _,
      isRange_of_mem_tail _⟩
    simp [fieldClauses, hcount]

/-- Entries on two fields in turn, with bounds before and after an equality. -/
def roomEntries : List FilterEntry :=
  [⟨"room", .gt, .single (.int32 1)⟩, ⟨"name", .isIn, .set (.ofList [.string "A", .string "B"])⟩,
    ⟨"room", .eq, .single (.int32 5)⟩, ⟨"room", .gte, .single (.int32 2)⟩,
    ⟨"name", .regex, .single (.string "^A")⟩, ⟨"room", .lt, .single (.int32 9)⟩,
    ⟨"room", .gte, .single (.int32 3)⟩]

theorem build_perField_roomEntries :
    (∀ e ∈ roomEntries, ∀ fault, ¬ e.Contradicts fault) ∧
    build roomEntries = .ok { Query.empty with criteria :=
      [⟨"room", [(.eq, .int32 5), (.gte, .int32 3), (.lt, .int32 9)]⟩,
        ⟨"name", [(.regex, .string "^A")]⟩] } := by
  have h : ∀ e ∈ roomEntries, ∀ fault, ¬ e.Contradicts fault := by
    have hok : ∀ e ∈ roomEntries, ∃ value, e.clauseValue = .ok value := by
      simp [roomEntries, FilterEntry.clauseValue, Operator.isMulti, TypedValue.asText?]
    exact fun e he => FilterEntry.exists_clauseValue_iff.mp (hok e he)
  exact ⟨h, ((build_perField roomEntries).2.1 h).trans rfl⟩

end Criteria
end Sift
