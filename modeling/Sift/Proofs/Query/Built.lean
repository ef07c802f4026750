import Sift.Page
import Sift.Proofs.Filter.Criteria
import Sift.Proofs.Match.Compile

/-!
# How queries are made

A query is made call by call from the empty one (`Query.Built`), or all at once from filter entries.
Either way a criterion gets into it by its field, so that no field has two criteria
(`Criteria.WellFormed`).
-/

namespace Sift

namespace Criteria

/-- No field has two criteria, and each criterion is made of clauses. -/
structure WellFormed (criteria : List Criterion) : Prop where
  nodup_fields : (criteria.map Criterion.field).Nodup
  constructed : ∀ c ∈ criteria, c.Constructed

theorem WellFormed.nil : WellFormed [] := ⟨by simp, by simp⟩

theorem WellFormed.put {criteria : List Criterion} (h : WellFormed criteria) {c : Criterion}
    (hc : c.Constructed) : WellFormed (Keyed.put Criterion.field c criteria) := by
  refine ⟨Keyed.nodup_put _ _ h.nodup_fields, fun c' hc' => ?_⟩
  rcases Keyed.mem_put hc' with rfl | hc'
  · exact hc
  · exact h.constructed c' hc'

/-! ## Queries from entries -/

theorem WellFormed.add {criteria : List Criterion} (h : WellFormed criteria) (field : String)
    (op : Operator) (value : Bson) : WellFormed (add criteria field op value) := by
  refine h.put ?_
  split
  · rename_i existing hexisting
    have hmade := h.constructed existing (Keyed.mem_of_get? _ hexisting).1
    split
    · exact hmade.and op value
    · exact .single field op value
  · exact .single field op value

end Criteria

/-! ## Queries call by call -/

/-- The queries that calls make of the empty one. -/
inductive Query.Built : Query → Prop where
  | empty : Built .empty
  | criterion {q : Query} (h : Built q) {c : Criterion} (hc : c.Constructed) :
    Built (q.withCriterion c)
  | limit {q : Query} (h : Built q) (n : Nat) : Built (q.withLimit n)
  | offset {q : Query} (h : Built q) (n : Nat) : Built (q.withOffset n)
  | paginate {q : Query} (h : Built q) (r : PageRequest) : Built (q.paginate r)
  | sort {q : Query} (h : Built q) (field : String) (direction : Direction) :
    Built (q.withSort field direction)
  | unpaged {q : Query} (h : Built q) : Built q.unpaged

theorem Query.Built.wellFormed {q : Query} (h : q.Built) : Criteria.WellFormed q.criteria := by
  induction h with
  | empty => exact .nil
  | criterion _ hc ih => exact ih.put hc
  | limit _ _ ih | offset _ _ ih | paginate _ _ ih | sort _ _ _ ih | unpaged _ ih => exact ih

end Sift
