import Mathlib.Data.List.DropRight
import Sift.Proofs.Query.Built

/-!
# Queries hold what was said last

A query that is made call by call holds for each of its parts what the last call on that part gave
(`Query.Reflects`), and a call leaves the other parts as they are (`Query.agreesOn_call`).  The
criteria of a query and the clauses of a criterion are both lists of members with keys, so what is
said of the one, by field, and of the other, by operator, comes from the same two facts: the keys
stand in first-seen order (`Keyed.map_putAll`), and each stands for its last member
(`Keyed.get?_putAll`).
-/

namespace Sift

/-! ## Criteria clause by clause -/

namespace Criterion

/-- What a criterion is made of: its field, its first clause and the clauses added to that. -/
structure Recipe where
  field : String
  first : Operator × Bson
  added : List (Operator × Bson)

namespace Recipe

def clauses (r : Recipe) : List (Operator × Bson) := r.first :: r.added

def made (r : Recipe) : Criterion := .ofClauses r.field r.first.1 r.first.2 r.added

theorem made_concat (field : String) (first clause : Operator × Bson)
    (added : List (Operator × Bson)) :
    (⟨field, first, added ++ [clause]⟩ : Recipe).made =
      (⟨field, first, added⟩ : Recipe).made.and clause.1 clause.2 := by
  rw [made, ofClauses, List.foldl_append]
  rfl

theorem made_eq (r : Recipe) : r.made = ⟨r.field, Keyed.putAll Prod.fst r.clauses⟩ := by
  obtain ⟨field, first, added⟩ := r
  induction added using List.reverseRecOn with
  | nil => rfl
  | append_singleton added clause ih =>
    rw [made_concat, ih]
    simp only [Criterion.and, clauses]
    rw [← List.cons_append, Keyed.putAll_concat]

theorem constructed_made (r : Recipe) : r.made.Constructed := by
  obtain ⟨field, first, added⟩ := r
  induction added using List.reverseRecOn with
  | nil => exact .single field first.1 first.2
  | append_singleton added clause ih =>
    rw [made_concat]
    exact ih.and clause.1 clause.2

theorem field_made (r : Recipe) : r.made.field = r.field := by
  rw [made_eq]

theorem operators_made (r : Recipe) :
    r.made.clauses.map Prod.fst = (r.clauses.map Prod.fst).eraseDups := by
  rw [made_eq, Keyed.map_putAll]

theorem clause?_made (r : Recipe) (op : Operator) :
    r.made.clause? op =
      (r.clauses.filter fun clause => clause.1 = op).getLast?.map Prod.snd := by
  rw [made_eq, clause?, Keyed.get?_putAll]

end Recipe
end Criterion

/-! ## Calls -/

namespace Query

open Criterion (Recipe)

/-- A call on a query that is being made. -/
inductive Call where
  | criterion (recipe : Recipe)
  | limit (n : Nat)
  | offset (n : Nat)
  | paginate (request : PageRequest)
  | sort (field : String) (direction : Direction)
  | unpaged

namespace Call

def recipe? : Call → Option Recipe
  | criterion recipe => some recipe
  | _ => none

/-- The limit that a call sets. -/
def limit? : Call → Option Nat
  | limit n => some n
  | paginate request => some request.size
  | _ => none

/-- The offset that a call sets. -/
def offset? : Call → Option Nat
  | offset n => some n
  | paginate request => some request.offset
  | _ => none

def sort? : Call → Option SortBy
  | sort field direction => some ⟨field, direction⟩
  | _ => none

def isUnpaged : Call → Bool
  | unpaged => true
  | _ => false

end Call

def call (q : Query) : Call → Query
  | .criterion recipe => q.withCriterion recipe.made
  | .limit n => q.withLimit n
  | .offset n => q.withOffset n
  | .paginate request => q.paginate request
  | .sort field direction => q.withSort field direction
  | .unpaged => q.unpaged

/-- The query that calls make of the empty one. -/
def ofCalls (calls : List Call) : Query := calls.foldl call empty

theorem ofCalls_concat (calls : List Call) (c : Call) :
    ofCalls (calls ++ [c]) = (ofCalls calls).call c := by
  rw [ofCalls, List.foldl_append]
  rfl

theorem built_ofCalls (calls : List Call) : (ofCalls calls).Built := by
  induction calls using List.reverseRecOn with
  | nil => exact .empty
  | append_singleton calls c ih =>
    rw [ofCalls_concat]
    cases c with
    | criterion recipe => exact ih.criterion recipe.constructed_made
    | limit n => exact ih.limit n
    | offset n => exact ih.offset n
    | paginate request => exact ih.paginate request
    | sort field direction => exact ih.sort field direction
    | unpaged => exact ih.unpaged

/-! ## One call -/

section Call

variable (q : Query) (c : Call)

theorem criteria_call :
    (q.call c).criteria =
      c.recipe?.elim q.criteria fun recipe => Keyed.put Criterion.field recipe.made q.criteria := by
  cases c <;> rfl

theorem limit_call : (q.call c).limit = if c.isUnpaged then none else c.limit?.or q.limit := by
  cases c <;> rfl

theorem offset_call : (q.call c).offset = if c.isUnpaged then none else c.offset?.or q.offset := by
  cases c <;> rfl

theorem sort_call : (q.call c).sort = c.sort?.or q.sort := by
  cases c <;> rfl

end Call

/-- The parts of a query: the criterion on a field, the criteria as a list, and the settings. -/
inductive Part where
  | criterion (field : String)
  | criteria
  | limit
  | offset
  | sort

/-- The call sets the part.  To take the limit and the offset away is to set them, too. -/
def Call.Sets (c : Call) : Part → Prop
  | .criterion field => ∃ recipe, c.recipe? = some recipe ∧ recipe.field = field
  | .criteria => c.recipe?.isSome = true
  | .limit => c.isUnpaged = true ∨ c.limit?.isSome = true
  | .offset => c.isUnpaged = true ∨ c.offset?.isSome = true
  | .sort => c.sort?.isSome = true

def AgreesOn (q q' : Query) : Part → Prop
  | .criterion field => q.criterion? field = q'.criterion? field
  | .criteria => q.criteria = q'.criteria
  | .limit => q.limit = q'.limit
  | .offset => q.offset = q'.offset
  | .sort => q.sort = q'.sort

theorem agreesOn_call {q : Query} {c : Call} {part : Part} (h : ¬ c.Sets part) :
    (q.call c).AgreesOn q part := by
  cases part with
  | criterion field =>
    rw [AgreesOn, criterion?, criterion?, criteria_call]
    cases hrecipe : c.recipe? with
    | none => rfl
    | some recipe =>
      refine Keyed.get?_put_of_ne Criterion.field ?_ q.criteria
      rw [recipe.field_made]
      exact fun hfield => h ⟨recipe, hrecipe, hfield⟩
  | criteria =>
    have hnone : c.recipe? = none := by simpa [Call.Sets] using h
    rw [AgreesOn, criteria_call, hnone]
    rfl
  | limit =>
    have hnone : c.isUnpaged = false ∧ c.limit? = none := by simpa [Call.Sets] using h
    rw [AgreesOn, limit_call, hnone.1, hnone.2]
    rfl
  | offset =>
    have hnone : c.isUnpaged = false ∧ c.offset? = none := by simpa [Call.Sets] using h
    rw [AgreesOn, offset_call, hnone.1, hnone.2]
    rfl
  | sort =>
    have hnone : c.sort? = none := by simpa [Call.Sets] using h
    rw [AgreesOn, sort_call, hnone]
    rfl

/-! ## A run of calls -/

def supplied (calls : List Call) : List Recipe := calls.filterMap Call.recipe?

/-- The calls after the last one that took the window away. -/
def sinceUnpaged (calls : List Call) : List Call := calls.rtakeWhile fun c => !c.isUnpaged

/-- The query holds what the calls said last. -/
structure Reflects (q : Query) (calls : List Call) : Prop where
  criteria : q.criteria = Keyed.putAll Criterion.field ((supplied calls).map Recipe.made)
  limit : q.limit = ((sinceUnpaged calls).filterMap Call.limit?).getLast?
  offset : q.offset = ((sinceUnpaged calls).filterMap Call.offset?).getLast?
  sort : q.sort = (calls.filterMap Call.sort?).getLast?

section Concat

variable {α : Type} (given : Call → Option α) (calls : List Call) (c : Call)

theorem lastGiven_concat :
    ((calls ++ [c]).filterMap given).getLast? =
      (given c).or (calls.filterMap given).getLast? := by
  rw [List.filterMap_append, List.getLast?_append, List.filterMap_cons, List.filterMap_nil]
  cases given c <;> rfl

theorem lastGiven_sinceUnpaged_concat :
    ((sinceUnpaged (calls ++ [c])).filterMap given).getLast? =
      if c.isUnpaged then none
      else (given c).or ((sinceUnpaged calls).filterMap given).getLast? := by
  rw [sinceUnpaged, List.rtakeWhile_concat]
  cases c.isUnpaged with
  | true => rfl
  | false => exact lastGiven_concat given _ c

end Concat

theorem Reflects.call {q : Query} {calls : List Call} (h : q.Reflects calls) (c : Call) :
    (q.call c).Reflects (calls ++ [c]) where
  criteria := by
    rw [criteria_call, supplied, List.filterMap_append, List.map_append, ← supplied]
    cases hrecipe : c.recipe? with
    | none => simpa [hrecipe] using h.criteria
    | some recipe => simp [hrecipe, h.criteria, Keyed.putAll_concat]
  limit := by rw [limit_call, lastGiven_sinceUnpaged_concat, h.limit]
  offset := by rw [offset_call, lastGiven_sinceUnpaged_concat, h.offset]
  sort := by rw [sort_call, lastGiven_concat, h.sort]

theorem reflects_ofCalls (calls : List Call) : (ofCalls calls).Reflects calls := by
  induction calls using List.reverseRecOn with
  | nil => exact ⟨rfl, rfl, rfl, rfl⟩
  | append_singleton calls c ih =>
    rw [ofCalls_concat]
    exact ih.call c

theorem criterion?_ofCalls (calls : List Call) (field : String) :
    (ofCalls calls).criterion? field =
      ((supplied calls).filter fun recipe => recipe.field = field).getLast?.map Recipe.made := by
  rw [criterion?, (reflects_ofCalls calls).criteria, Keyed.get?_putAll, List.filter_map,
    List.getLast?_map]
  simp only [Function.comp_def, Recipe.field_made]

/-- A query has one criterion for each field that came, in the order in which the fields first came,
and it is the last one that came for the field.  A criterion has one clause for each operator that
came for it, in the order in which they first came, with the value that came last.  Limit and offset
are those of the last call on them since the window was last taken away, and the sort is the last
one.  A call leaves each part that it does not set as it was. -/
theorem ofCalls_keepsLast (calls : List Call) :
    (ofCalls calls).criteria.map Criterion.field = ((supplied calls).map Recipe.field).eraseDups ∧
    ((ofCalls calls).criteria.map Criterion.field).Nodup ∧
    (∀ field, (ofCalls calls).criterion? field =
      ((supplied calls).filter fun recipe => recipe.field = field).getLast?.map Recipe.made) ∧
    (∀ c ∈ (ofCalls calls).criteria, ∃ recipe ∈ supplied calls, recipe.made = c) ∧
    (∀ recipe : Recipe, recipe.made.field = recipe.field ∧ recipe.made.clauses ≠ [] ∧
      (recipe.made.clauses.map Prod.fst).Nodup ∧
      recipe.made.clauses.map Prod.fst = (recipe.clauses.map Prod.fst).eraseDups ∧
      ∀ op, recipe.made.clause? op =
        (recipe.clauses.filter fun clause => clause.1 = op).getLast?.map Prod.snd) ∧
    (ofCalls calls).limit = ((sinceUnpaged calls).filterMap Call.limit?).getLast? ∧
    (ofCalls calls).offset = ((sinceUnpaged calls).filterMap Call.offset?).getLast? ∧
    (ofCalls calls).sort = (calls.filterMap Call.sort?).getLast? ∧
    ∀ (q : Query) (c : Call) (part : Part), ¬ c.Sets part → (q.call c).AgreesOn q part := by
  have hreflects := reflects_ofCalls calls
  have hnodup := (built_ofCalls calls).wellFormed.nodup_fields
  have hlast := criterion?_ofCalls calls
  refine ⟨?_, hnodup, hlast, fun c hc => ?_, fun recipe => ?_, hreflects.limit, hreflects.offset,
    hreflects.sort, fun q c part => agreesOn_call⟩
  · rw [hreflects.criteria, Keyed.map_putAll, List.map_map]
    exact congrArg List.eraseDups (List.map_congr_left fun recipe _ => recipe.field_made)
  · have hfound : (ofCalls calls).criterion? c.field = some c :=
      Keyed.get?_of_mem Criterion.field hnodup hc
    rw [hlast, Option.map_eq_some_iff] at hfound
    obtain ⟨recipe, hrecipe, hmade⟩ := hfound
    exact ⟨recipe, (List.mem_filter.mp (List.mem_of_getLast? hrecipe)).1, hmade⟩
  · have hwf := recipe.constructed_made.wellFormed
    exact ⟨recipe.field_made, hwf.1, hwf.2, recipe.operators_made, recipe.clause?_made⟩

/-- Two criteria on one field, the second with two clauses for one operator, and a window that is
taken away and set again. -/
def changedRooms : List Call :=
  [.criterion ⟨"room", (.gte, .int32 100), [(.lt, .int32 300)]⟩,
    .paginate ⟨2, 25⟩,
    .sort "name" .ascending,
    .criterion ⟨"name", (.regex, .string "^A"), []⟩,
    .unpaged,
    .limit 10,
    .criterion ⟨"room", (.gt, .int32 1), [(.lt, .int32 200), (.gt, .int32 150)]⟩,
    .sort "room" .descending,
    .limit 5]

theorem ofCalls_keepsLast_changedRooms :
    ofCalls changedRooms =
      ⟨[⟨"room", [(.gt, .int32 150), (.lt, .int32 200)]⟩, ⟨"name", [(.regex, .string "^A")]⟩],
        some 5, none, some ⟨"room", .descending⟩⟩ ∧
    (∀ c ∈ (ofCalls changedRooms).criteria, ∃ recipe ∈ supplied changedRooms, recipe.made = c) ∧
    (ofCalls changedRooms).limit = some 5 ∧ (ofCalls changedRooms).offset = none ∧
    ¬ (Call.limit 7).Sets .offset ∧ ¬ (Call.limit 7).Sets (.criterion "room") ∧
    ((ofCalls changedRooms).call (.limit 7)).AgreesOn (ofCalls changedRooms) .offset ∧
    ((ofCalls changedRooms).call (.limit 7)).AgreesOn (ofCalls changedRooms)
      (.criterion "room") := by
  obtain ⟨-, -, -, hmade, -, hlimit, hoffset, -, hkeeps⟩ := ofCalls_keepsLast changedRooms
  have hnoOffset : ¬ (Call.limit 7).Sets .offset := by
    simp [Call.Sets, Call.isUnpaged, Call.offset?]
  have hnoRoom : ¬ (Call.limit 7).Sets (.criterion "room") := by simp [Call.Sets, Call.recipe?]
  exact ⟨rfl, hmade, hlimit, hoffset, hnoOffset, hnoRoom, hkeeps _ _ _ hnoOffset,
    hkeeps _ _ _ hnoRoom⟩

end Query
end Sift
