import Sift.Proofs.Match.Compile

/-!
# What a query selects

A pattern reads the same wherever it is compiled, so what a criterion says of a document does not
depend on the criteria beside it.  `Criterion.Faulty` says which criteria do not compile, and
`Criterion.holds` what one says of a document when it is compiled alone.  `compile_eq_error_iff` and
`select_eq_filter` put queries together from these: compiling fails as the first faulty criterion
does, and otherwise the documents are filtered by all criteria, each for itself.
-/

namespace Sift

theorem Bson.asText?_eq_some_iff {value : Bson} {text : String} :
    value.asText? = some text ↔ value = .string text := by
  cases value <;> simp [asText?]

theorem Criterion.mem_of_clause? {c : Criterion} {op : Operator} {value : Bson}
    (h : c.clause? op = some value) : (op, value) ∈ c.clauses := by
  obtain ⟨⟨_, _⟩, hclause, rfl⟩ := Option.map_eq_some_iff.mp h
  obtain ⟨hmem, rfl⟩ := Keyed.mem_of_get? Prod.fst hclause
  exact hmem

/-- How the pattern of a criterion does not compile. -/
inductive Criterion.Faulty : Criterion → BackendFault → Prop where
  | notText {c : Criterion} {value : Bson} (h : c.clause? .regex = some value)
      (htext : value.asText? = none) : Faulty c (.patternNotText c.field value.text)
  | unreadable {c : Criterion} {pattern : String} {fault : Pattern.Fault}
      (h : c.clause? .regex = some (.string pattern))
      (hread : Pattern.read pattern = .error fault) : Faulty c (.badPattern pattern)

namespace Patterns

/-! ## Compiling fails for the first faulty criterion -/

/-- Each expression is what its pattern reads as. -/
def Sound (ps : Patterns) : Prop :=
  ∀ pattern e, ps.get? pattern = some e → Pattern.read pattern = .ok e

theorem sound_empty : empty.Sound := by
  intro pattern e h
  cases h

theorem Sound.concat {ps : Patterns} (hs : ps.Sound) {pattern : String} {e : Pattern.Expr}
    (hread : Pattern.read pattern = .ok e) : Sound ⟨ps.entries ++ [(pattern, e)]⟩ := by
  intro p e' h
  simp only [get?, Keyed.get?, List.find?_append] at h
  cases hfind : ps.entries.find? fun entry => entry.1 = p with
  | some entry =>
    refine hs p e' ?_
    simpa [get?, Keyed.get?, hfind] using h
  | none =>
    rw [hfind] at h
    by_cases hp : pattern = p
    · simp only [Option.none_or, List.find?_singleton, hp, decide_true, if_true, Option.map_some,
        Option.some.injEq] at h
      rw [← hp, ← h]
      exact hread
    · simp [hp] at h

theorem addCriterion_sound {ps qs : Patterns} {c : Criterion} (hs : ps.Sound)
    (h : ps.addCriterion c = .ok qs) : qs.Sound := by
  unfold addCriterion at h
  split at h
  · cases h
    exact hs
  · split at h
    · cases h
    · split at h
      · cases h
        exact hs
      · split at h
        · rename_i hread
          cases h
          exact hs.concat hread
        · cases h

theorem addCriterion_of_faulty {ps : Patterns} (hs : ps.Sound) {c : Criterion}
    {fault : BackendFault} (h : c.Faulty fault) : ps.addCriterion c = .error (.backend fault) := by
  cases h with
  | notText h htext => simp [addCriterion, h, htext]
  | @unreadable pattern _ h hread =>
    have hnone : ps.get? pattern = none := by
      cases hget : ps.get? pattern with
      | none => rfl
      | some e =>
        rw [hs pattern e hget] at hread
        cases hread
    simp [addCriterion, h, Bson.asText?, hnone, hread]

theorem exists_addCriterion {c : Criterion} (h : ∀ fault, ¬ c.Faulty fault) (ps : Patterns) :
    ∃ qs, ps.addCriterion c = .ok qs := by
  unfold addCriterion
  cases hclause : c.clause? .regex with
  | none => exact ⟨ps, rfl⟩
  | some value =>
    cases htext : value.asText? with
    | none => exact absurd (.notText hclause htext) (h _)
    | some pattern =>
      rw [Bson.asText?_eq_some_iff.mp htext] at hclause
      by_cases hseen : (ps.get? pattern).isSome = true
      · exact ⟨ps, by simp [htext, hseen]⟩
      · cases hread : Pattern.read pattern with
        | error fault => exact absurd (.unreadable hclause hread) (h _)
        | ok e => exact ⟨⟨ps.entries ++ [(pattern, e)]⟩, by simp [htext, hseen, hread]⟩

/-- A criterion fails for its own pattern, whatever is compiled before. -/
theorem addCriterion_eq_error_iff {ps : Patterns} (hs : ps.Sound) {c : Criterion}
    {error : StoreError} :
    ps.addCriterion c = .error error ↔ ∃ fault, c.Faulty fault ∧ error = .backend fault := by
  constructor
  · intro h
    by_cases hfine : ∀ fault, ¬ c.Faulty fault
    · obtain ⟨qs, hqs⟩ := exists_addCriterion hfine ps
      rw [hqs] at h
      cases h
    · obtain ⟨fault, hfault⟩ := not_forall_not.mp hfine
      rw [addCriterion_of_faulty hs hfault] at h
      exact ⟨fault, hfault, (Except.error.inj h).symm⟩
  · rintro ⟨fault, hfault, rfl⟩
    exact addCriterion_of_faulty hs hfault

theorem foldlM_addCriterion_eq_error_iff {criteria : List Criterion} {error : StoreError}
    {ps : Patterns} (hs : ps.Sound) :
    criteria.foldlM addCriterion ps = .error error ↔
      FirstFailure empty.addCriterion criteria error := by
  -- what is compiled before may be anything sound, since a criterion fails for its own pattern
  induction criteria generalizing ps with
  | nil => simp [FirstFailure, pure, Except.pure]
  | cons c criteria ih =>
    rw [List.foldlM_cons]
    cases hadd : ps.addCriterion c with
    | error cause =>
      have hown : empty.addCriterion c = .error cause :=
        (addCriterion_eq_error_iff sound_empty).mpr ((addCriterion_eq_error_iff hs).mp hadd)
      rw [FirstFailure.cons_error hown]
      simp [bind, Except.bind]
    | ok qs =>
      obtain ⟨own, hown⟩ : ∃ own, empty.addCriterion c = .ok own := by
        refine exists_addCriterion (fun fault hfault => ?_) empty
        rw [addCriterion_of_faulty hs hfault] at hadd
        cases hadd
      rw [FirstFailure.cons_ok hown]
      exact ih (addCriterion_sound hs hadd)

/-- Compiling fails as the first faulty criterion does. -/
theorem compile_eq_error_iff {criteria : List Criterion} {error : StoreError} :
    compile criteria = .error error ↔
      ∃ before c after fault, criteria = before ++ c :: after ∧
        (∀ b ∈ before, ∀ fault, ¬ b.Faulty fault) ∧ c.Faulty fault ∧ error = .backend fault := by
  have hfine : ∀ {c : Criterion},
      (∃ ps, empty.addCriterion c = .ok ps) ↔ ∀ fault, ¬ c.Faulty fault := by
    intro c
    refine ⟨fun ⟨ps, hps⟩ fault hfault => ?_, fun h => exists_addCriterion h empty⟩
    rw [addCriterion_of_faulty sound_empty hfault] at hps
    cases hps
  unfold compile
  rw [foldlM_addCriterion_eq_error_iff sound_empty]
  simp only [FirstFailure, hfine, addCriterion_eq_error_iff sound_empty]
  constructor
  · rintro ⟨before, c, after, hcriteria, hbefore, fault, hfault, herror⟩
    exact ⟨before, c, after, fault, hcriteria, hbefore, hfault, herror⟩
  · rintro ⟨before, c, after, fault, hcriteria, hbefore, hfault, herror⟩
    exact ⟨before, c, after, hcriteria, hbefore, fault, hfault, herror⟩

theorem exists_compile_iff {criteria : List Criterion} :
    (∃ ps, compile criteria = .ok ps) ↔ ∀ c ∈ criteria, ∀ fault, ¬ c.Faulty fault := by
  have hfails : (∃ error, compile criteria = .error error) ↔
      ∃ c ∈ criteria, ∃ fault, c.Faulty fault := by
    unfold compile
    simp only [foldlM_addCriterion_eq_error_iff sound_empty, exists_firstFailure_iff,
      addCriterion_eq_error_iff sound_empty]
    simp
  cases hcompile : compile criteria with
  | ok ps =>
    simp only [hcompile, reduceCtorEq, exists_false, false_iff] at hfails
    simpa using hfails
  | error error =>
    simp only [reduceCtorEq, exists_false, false_iff]
    intro hfine
    obtain ⟨c, hc, fault, hfault⟩ := hfails.mp ⟨error, hcompile⟩
    exact hfine c hc fault hfault

theorem foldlM_addCriterion_sound {criteria : List Criterion} {ps qs : Patterns} (hs : ps.Sound)
    (h : criteria.foldlM addCriterion ps = .ok qs) : qs.Sound := by
  induction criteria generalizing ps with
  | nil =>
    simp only [List.foldlM_nil, pure, Except.pure, Except.ok.injEq] at h
    exact h ▸ hs
  | cons c criteria ih =>
    rw [List.foldlM_cons] at h
    obtain ⟨rs, hadd, h⟩ := bind_eq_ok_iff.mp h
    exact ih (addCriterion_sound hs hadd) h

theorem compile_sound {criteria : List Criterion} {ps : Patterns} (h : compile criteria = .ok ps) :
    ps.Sound :=
  foldlM_addCriterion_sound sound_empty h

/-- The later criteria compile as they do alone. -/
theorem compile_append_eq_error_iff {criteria more : List Criterion} {error : StoreError} :
    compile (criteria ++ more) = .error error ↔
      compile criteria = .error error ∨
        (∃ ps, compile criteria = .ok ps) ∧ compile more = .error error := by
  have hsplit : compile (criteria ++ more) =
      (compile criteria).bind fun ps => more.foldlM addCriterion ps := by
    unfold compile
    rw [List.foldlM_append]
    rfl
  cases hcompile : compile criteria with
  | error cause => simp [hsplit, hcompile, Except.bind]
  | ok ps =>
    have hmore : more.foldlM addCriterion ps = .error error ↔ compile more = .error error := by
      unfold compile
      rw [foldlM_addCriterion_eq_error_iff (compile_sound hcompile),
        foldlM_addCriterion_eq_error_iff sound_empty]
    simp [hsplit, hcompile, Except.bind, hmore]

end Patterns

/-! ## What a criterion says of a document -/

/-- The criterion alone holds for a document. -/
def Criterion.holds (c : Criterion) (d : Document) : Bool :=
  ((Patterns.compile [c]).bind fun ps => ps.criterionHolds d c).toOption.getD false

/-- The value is a document for which all criteria hold, each for itself. -/
def Query.selects (q : Query) (value : Bson) : Bool :=
  value.asDocument?.any fun d => q.criteria.all fun c => c.holds d

namespace Patterns

theorem allM_congr {α ε : Type} {f g : α → Except ε Bool} {xs : List α}
    (h : ∀ x ∈ xs, f x = g x) : xs.allM f = xs.allM g := by
  induction xs with
  | nil => rfl
  | cons x xs ih =>
    simp only [List.allM, h x List.mem_cons_self,
      ih fun y hy => h y (List.mem_cons_of_mem x hy)]

theorem allM_eq_ok_all {α ε : Type} {f : α → Except ε Bool} {p : α → Bool} {xs : List α}
    (h : ∀ x ∈ xs, f x = .ok (p x)) : xs.allM f = .ok (xs.all p) := by
  induction xs with
  | nil => rfl
  | cons x xs ih =>
    have hrest := ih fun y hy => h y (List.mem_cons_of_mem x hy)
    cases hx : p x with
    | false => simp [List.allM, h x List.mem_cons_self, hx, bind, Except.bind, pure, Except.pure]
    | true => simp [List.allM, h x List.mem_cons_self, hx, hrest, bind, Except.bind]

section

variable {ps qs : Patterns} {c : Criterion}

theorem get?_eq_of_read {pattern : String} (hs : ps.Sound)
    (hsome : (ps.get? pattern).isSome = true) : ps.get? pattern = (Pattern.read pattern).toOption := by
  obtain ⟨e, he⟩ := Option.isSome_iff_exists.mp hsome
  rw [he, hs pattern e he]
  rfl

/-- Tables that know the pattern of a criterion evaluate it alike. -/
theorem criterionHolds_congr (hps : ps.Sound) (hqs : qs.Sound) (hcps : ps.Covers c)
    (hcqs : qs.Covers c) (d : Document) : ps.criterionHolds d c = qs.criterionHolds d c := by
  refine allM_congr fun clause hclause => ?_
  obtain ⟨op, bound⟩ := clause
  cases hvalue : d.lookup c.field with
  | none => rfl
  | some value =>
    -- only a regex clause looks into the table
    cases op with
    | regex =>
      have hp := hcps bound hclause
      have hq := hcqs bound hclause
      cases htext : bound.asText? with
      | none => simp [htext] at hp
      | some pattern =>
        simp only [htext, Option.bind_some] at hp hq
        simp only [clauseHoldsAt, clauseHolds, htext, Option.bind_some, get?_eq_of_read hps hp,
          get?_eq_of_read hqs hq]
    | _ => rfl

theorem not_faulty_of_covers (hs : ps.Sound) (hcov : ps.Covers c) (fault : BackendFault) :
    ¬ c.Faulty fault := by
  intro hfault
  cases hfault with
  | notText h htext =>
    have hsome := hcov _ (Criterion.mem_of_clause? h)
    simp [htext] at hsome
  | @unreadable pattern _ h hread =>
    have hsome := hcov _ (Criterion.mem_of_clause? h)
    simp only [Bson.asText?, Option.bind_some] at hsome
    have hget := get?_eq_of_read hs hsome
    simp [hget, hread, Except.toOption] at hsome

theorem criterionHolds_eq_holds (hc : c.WellFormed) (hs : ps.Sound) (hcov : ps.Covers c)
    (d : Document) : ps.criterionHolds d c = .ok (c.holds d) := by
  obtain ⟨own, hown⟩ : ∃ own, compile [c] = .ok own := by
    refine exists_compile_iff.mpr fun c' hc' => ?_
    rw [List.mem_singleton.mp hc']
    exact not_faulty_of_covers hs hcov
  have hcov' : own.Covers c :=
    covers_of_compile (by simpa using hc) hown c List.mem_cons_self
  obtain ⟨b, hb⟩ := exists_criterionHolds hcov d
  have hsame := criterionHolds_congr (compile_sound hown) hs hcov' hcov d
  rw [hb, Criterion.holds, hown]
  simp [Except.bind, hsame, hb, Except.toOption]

end

/-! ## Selection is a filter -/

theorem select_eq_filter {ps : Patterns} {q : Query} (hq : ∀ c ∈ q.criteria, c.WellFormed)
    (h : compile q.criteria = .ok ps) (values : List Bson) :
    ps.select q.criteria values = .ok (values.filter q.selects) := by
  have hcov := covers_of_compile hq h
  have hall : ∀ d, ps.allHold q.criteria d = .ok (q.criteria.all fun c => c.holds d) := fun d =>
    allM_eq_ok_all fun c hc => criterionHolds_eq_holds (hq c hc) (compile_sound h) (hcov c hc) d
  induction values with
  | nil => rfl
  | cons value values ih =>
    unfold select
    cases hd : value.asDocument? with
    | none => simpa [Query.selects, hd] using ih
    | some d =>
      simp only [hall, ih, bind, Except.bind, pure, Except.pure, List.filter_cons, Query.selects, hd,
        Option.any_some]

end Patterns

/-! ## Queries on a store -/

namespace Memory

/-- What a collection holds; nothing if it is not there. -/
def held (m : Memory) (collection : String) : Holdings := (m.get? collection).getD .empty

def documents (m : Memory) (collection : String) : List Bson := (m.held collection).documents

def ids (m : Memory) (collection : String) : HashSet Uuid := (m.held collection).ids

variable {m : Memory} {collection : String} {q : Query}

theorem matching_of_missing (h : m.get? collection = none) : m.matching collection q = .ok [] := by
  simp [matching, h]

theorem find_eq_matching (m : Memory) (collection : String) (criteria : List Criterion) :
    m.find collection { Query.empty with criteria } =
      m.matching collection { Query.empty with criteria } := by
  unfold find
  cases m.matching collection { Query.empty with criteria } <;> rfl

/-- A query for a collection that is there is compiled first, whatever is stored. -/
theorem matching_of_faulty {error : StoreError} (hsome : (m.get? collection).isSome = true)
    (h : Patterns.compile q.criteria = .error error) :
    m.matching collection q = .error error := by
  obtain ⟨held, hheld⟩ := Option.isSome_iff_exists.mp hsome
  simp [matching, hheld, Query.select, h, bind, Except.bind]

theorem matching_of_compile {ps : Patterns} (hq : ∀ c ∈ q.criteria, c.WellFormed)
    (h : Patterns.compile q.criteria = .ok ps) :
    m.matching collection q = .ok ((m.documents collection).filter q.selects) := by
  cases hget : m.get? collection with
  | none => simp [matching, documents, Memory.held, Holdings.empty, hget]
  | some held =>
    simp only [matching, documents, Memory.held, hget, Query.select, h, bind, Except.bind,
      Option.getD_some]
    exact Patterns.select_eq_filter hq h _

/-- A query finds what it selects, unless its collection is there and its patterns do not compile. -/
theorem matching_eq_ok_iff (hq : ∀ c ∈ q.criteria, c.WellFormed) {found : List Bson} :
    m.matching collection q = .ok found ↔
      ((m.get? collection).isSome = true → ∃ ps, Patterns.compile q.criteria = .ok ps) ∧
        (m.documents collection).filter q.selects = found := by
  cases hget : m.get? collection with
  | none => simp [matching_of_missing hget, documents, Memory.held, Holdings.empty, hget]
  | some held =>
    cases hcompile : Patterns.compile q.criteria with
    | error error =>
      have hfails : m.matching collection q = .error error :=
        matching_of_faulty (by simp [hget]) hcompile
      simp [hfails]
    | ok ps => simp [matching_of_compile hq hcompile]

theorem matching_eq_error_iff (hq : ∀ c ∈ q.criteria, c.WellFormed) {error : StoreError} :
    m.matching collection q = .error error ↔
      (m.get? collection).isSome = true ∧ Patterns.compile q.criteria = .error error := by
  constructor
  · intro h
    cases hget : m.get? collection with
    | none =>
      rw [matching_of_missing hget] at h
      cases h
    | some held =>
      cases hcompile : Patterns.compile q.criteria with
      | error cause =>
        rw [matching_of_faulty (by simp [hget]) hcompile, Except.error.injEq] at h
        exact ⟨rfl, congrArg _ h⟩
      | ok ps =>
        rw [matching_of_compile hq hcompile] at h
        cases h
  · rintro ⟨hsome, hcompile⟩
    exact matching_of_faulty hsome hcompile

end Memory
end Sift
