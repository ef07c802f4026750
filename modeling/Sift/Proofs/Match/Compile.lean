import Mathlib.Data.List.Induction
import Sift.Memory.Store
import Sift.Proofs.Outcome

/-!
# Queries whose patterns compile

Compiling looks at one regex clause of each criterion, and evaluation looks up the pattern of every
regex clause it meets.  The two agree because a criterion has one clause for each operator, however
it is made (`constructed_iff_wellFormed`): `covers_of_compile` says that after a successful
compilation every regex clause finds its pattern, and `exists_select` that evaluation then ends
without an error on all values.
-/

namespace Sift

/-! ## How criteria are made -/

namespace Criterion

/-- The criteria that can be made: one clause, and then more of them. -/
inductive Constructed : Criterion → Prop where
  | single (field : String) (op : Operator) (value : Bson) : Constructed (.single field op value)
  | and {c : Criterion} (h : c.Constructed) (op : Operator) (value : Bson) :
    Constructed (c.and op value)

theorem Constructed.wellFormed {c : Criterion} (h : c.Constructed) : c.WellFormed := by
  induction h with
  | single field op value => exact wellFormed_single field op value
  | and _ op value ih => exact ih.and op value

/-- Every well-formed criterion can be made, by adding its clauses in order. -/
theorem constructed_iff_wellFormed {c : Criterion} : c.Constructed ↔ c.WellFormed := by
  refine ⟨Constructed.wellFormed, fun h => ?_⟩
  obtain ⟨field, clauses⟩ := c
  induction clauses using List.reverseRecOn with
  | nil => exact absurd rfl h.1
  | append_singleton clauses clause ih =>
    have hnodup := h.2
    rw [List.map_append, List.map_singleton, List.nodup_append] at hnodup
    by_cases hnil : clauses = []
    · rw [hnil]
      exact .single field clause.1 clause.2
    · have hnew : clause.1 ∉ clauses.map Prod.fst :=
        fun hmem => hnodup.2.2 _ hmem _ List.mem_cons_self rfl
      have hlast : Criterion.and ⟨field, clauses⟩ clause.1 clause.2 =
          ⟨field, clauses ++ [clause]⟩ := by
        rw [Criterion.and, Keyed.put_eq Prod.fst _ hnodup.1, if_neg hnew]
      rw [← hlast]
      exact (ih ⟨hnil, hnodup.1⟩).and _ _

end Criterion

namespace Patterns

/-! ## What compiling gathers -/

/-- The regex clauses of a criterion find their patterns among the compiled ones. -/
def Covers (ps : Patterns) (c : Criterion) : Prop :=
  ∀ bound, (Operator.regex, bound) ∈ c.clauses → (bound.asText?.bind ps.get?).isSome = true

/-- Every pattern that is compiled in the first is compiled in the second. -/
def Within (ps qs : Patterns) : Prop :=
  ∀ pattern, (ps.get? pattern).isSome = true → (qs.get? pattern).isSome = true

theorem Within.refl (ps : Patterns) : ps.Within ps := fun _ h => h

theorem Within.trans {ps qs rs : Patterns} (h : ps.Within qs) (h' : qs.Within rs) :
    ps.Within rs := fun pattern hp => h' pattern (h pattern hp)

theorem Covers.mono {ps qs : Patterns} {c : Criterion} (h : ps.Covers c) (hw : ps.Within qs) :
    qs.Covers c := by
  intro bound hb
  have hp := h bound hb
  cases ht : bound.asText? with
  | none => simp [ht] at hp
  | some pattern =>
    simp only [ht, Option.bind_some] at hp ⊢
    exact hw pattern hp

theorem isSome_get?_append (ps : Patterns) (more : List (String × Pattern.Expr))
    (pattern : String) :
    (Patterns.get? ⟨ps.entries ++ more⟩ pattern).isSome =
      ((ps.get? pattern).isSome || (Patterns.get? ⟨more⟩ pattern).isSome) := by
  simp [Patterns.get?, Keyed.get?, List.find?_append]

theorem covers_of_clause? {ps : Patterns} {c : Criterion} (hc : c.WellFormed)
    (h : ∀ bound, c.clause? .regex = some bound → (bound.asText?.bind ps.get?).isSome = true) :
    ps.Covers c := by
  intro bound hb
  refine h bound ?_
  have hget := Keyed.get?_of_mem Prod.fst hc.2 hb
  rw [Criterion.clause?, hget, Option.map_some]

/-- Adding a criterion keeps what is compiled and covers the criterion. -/
theorem addCriterion_covers {ps qs : Patterns} {c : Criterion} (hc : c.WellFormed)
    (h : ps.addCriterion c = .ok qs) : ps.Within qs ∧ qs.Covers c := by
  unfold addCriterion at h
  cases hclause : c.clause? .regex with
  | none =>
    simp only [hclause, Except.ok.injEq] at h
    subst h
    exact ⟨.refl _, covers_of_clause? hc fun bound hb => by simp [hclause] at hb⟩
  | some value =>
    simp only [hclause] at h
    cases htext : value.asText? with
    | none => simp [htext] at h
    | some pattern =>
      simp only [htext] at h
      -- It is enough that the pattern of this one clause is found.
      have cover : ∀ rs : Patterns, (rs.get? pattern).isSome = true → rs.Covers c := by
        intro rs hrs
        refine covers_of_clause? hc fun bound hb => ?_
        rw [hclause, Option.some.injEq] at hb
        subst hb
        simpa [htext] using hrs
      split at h
      · rename_i hseen
        simp only [Except.ok.injEq] at h
        subst h
        exact ⟨.refl _, cover _ hseen⟩
      · split at h
        · rename_i e _
          simp only [Except.ok.injEq] at h
          subst h
          refine ⟨fun p hp => ?_, cover _ ?_⟩
          · rw [isSome_get?_append, hp, Bool.true_or]
          · rw [isSome_get?_append]
            simp [Patterns.get?, Keyed.get?]
        · simp at h

theorem foldlM_addCriterion_covers {criteria : List Criterion}
    (hc : ∀ c ∈ criteria, c.WellFormed) {ps qs : Patterns}
    (h : criteria.foldlM addCriterion ps = .ok qs) :
    ps.Within qs ∧ ∀ c ∈ criteria, qs.Covers c := by
  induction criteria generalizing ps with
  | nil =>
    simp only [List.foldlM_nil, pure, Except.pure, Except.ok.injEq] at h
    subst h
    exact ⟨.refl _, by simp⟩
  | cons c criteria ih =>
    rw [List.foldlM_cons] at h
    obtain ⟨rs, hadd, h⟩ := bind_eq_ok_iff.mp h
    obtain ⟨hw, hcov⟩ := addCriterion_covers (hc c (by simp)) hadd
    obtain ⟨hw', hrest⟩ := ih (fun c' hc' => hc c' (by simp [hc'])) h
    refine ⟨hw.trans hw', fun c' hc' => ?_⟩
    rcases List.mem_cons.mp hc' with rfl | hc'
    · exact hcov.mono hw'
    · exact hrest c' hc'

/-- After a compilation without failure every regex clause finds its pattern. -/
theorem covers_of_compile {criteria : List Criterion} (hc : ∀ c ∈ criteria, c.WellFormed)
    {ps : Patterns} (h : compile criteria = .ok ps) : ∀ c ∈ criteria, ps.Covers c :=
  (foldlM_addCriterion_covers hc h).2

/-! ## Evaluation with all patterns at hand -/

theorem exists_allM {α ε : Type} {f : α → Except ε Bool} {xs : List α}
    (h : ∀ x ∈ xs, ∃ b, f x = .ok b) : ∃ b, xs.allM f = .ok b := by
  induction xs with
  | nil => exact ⟨true, rfl⟩
  | cons x xs ih =>
    obtain ⟨b, hb⟩ := h x (by simp)
    obtain ⟨rest, hrest⟩ := ih fun y hy => h y (by simp [hy])
    cases b with
    | false => exact ⟨false, by simp [List.allM, hb, bind, Except.bind, pure, Except.pure]⟩
    | true => exact ⟨rest, by simp [List.allM, hb, hrest, bind, Except.bind]⟩

theorem exists_clauseHoldsAt {ps : Patterns} {op : Operator} {bound : Bson}
    (h : op = .regex → (bound.asText?.bind ps.get?).isSome = true) (value : Option Bson) :
    ∃ b, ps.clauseHoldsAt value op bound = .ok b := by
  cases value with
  | none => exact ⟨_, rfl⟩
  | some value =>
    cases op with
    | regex =>
      obtain ⟨e, he⟩ := Option.isSome_iff_exists.mp (h rfl)
      exact ⟨value.candidates.any fun c => c.asText?.any e.isMatch, by
        simp [clauseHoldsAt, clauseHolds, he]⟩
    | _ => exact ⟨_, rfl⟩

theorem exists_criterionHolds {ps : Patterns} {c : Criterion} (h : ps.Covers c) (d : Document) :
    ∃ b, ps.criterionHolds d c = .ok b := by
  refine exists_allM fun clause hclause => ?_
  obtain ⟨op, bound⟩ := clause
  exact exists_clauseHoldsAt (fun hop => h bound (hop ▸ hclause)) _

theorem exists_allHold {ps : Patterns} {criteria : List Criterion}
    (h : ∀ c ∈ criteria, ps.Covers c) (d : Document) : ∃ b, ps.allHold criteria d = .ok b :=
  exists_allM fun c hc => exists_criterionHolds (h c hc) d

/-- With all patterns at hand no value makes the selection fail. -/
theorem exists_select {ps : Patterns} {criteria : List Criterion}
    (h : ∀ c ∈ criteria, ps.Covers c) (values : List Bson) :
    ∃ found, ps.select criteria values = .ok found := by
  induction values with
  | nil => exact ⟨[], rfl⟩
  | cons value values ih =>
    obtain ⟨found, hfound⟩ := ih
    unfold select
    cases value.asDocument? with
    | none => exact ⟨found, hfound⟩
    | some d =>
      obtain ⟨b, hb⟩ := exists_allHold h d
      exact ⟨if b then value :: found else found, by
        simp [hb, hfound, bind, Except.bind, pure, Except.pure]⟩

end Patterns

/-! ## Queries on a store -/

namespace Memory

variable {q : Query} {ps : Patterns}

theorem exists_matching (hq : ∀ c ∈ q.criteria, c.WellFormed)
    (h : Patterns.compile q.criteria = .ok ps) (m : Memory) (collection : String) :
    ∃ found, m.matching collection q = .ok found := by
  unfold matching
  cases m.get? collection with
  | none => exact ⟨[], rfl⟩
  | some held =>
    obtain ⟨found, hfound⟩ :=
      Patterns.exists_select (Patterns.covers_of_compile hq h) held.documents
    exact ⟨found, by simp [Query.select, h, hfound, bind, Except.bind]⟩

end Memory
end Sift
