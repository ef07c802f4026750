import Sift.Proofs.Filter.Conjoin
import Sift.Proofs.Page.Serve

/-!
# How requests for a page end

A request is checked from its tokens over its page to its patterns, and only then are documents
looked at, which cannot fail any more.  `RequestFails` has a rule for each check, and `page_outcome`
says that a request fails by these rules or gets its page, whatever the collection holds.
-/

namespace Sift

variable {ι : Type} [Catalog ι]

/-! ## Patterns of tokens -/

/-- The pattern of the criterion does not compile. -/
def Criterion.Unreadable (c : Criterion) (pattern : String) : Prop :=
  c.clause? .regex = some (.string pattern) ∧ ∃ fault, Pattern.read pattern = .error fault

theorem FilterEntry.Typed.exists_pattern {schema : Schema ι} {type : ScalarType} {e : FilterEntry}
    (h : e.Typed schema type) (hop : e.op = .regex) :
    ∃ pattern, e.value.toBson = .string pattern := by
  have hset := h.isSet_iff
  have htype := h.string_of_regex hop
  have hmembers := h.scalarType_eq
  cases hvalue : e.value with
  | set values => simp [hvalue, hop, FilterValue.isSet] at hset
  | single value =>
    have hstring : value.scalarType = .string :=
      (hmembers value (by simp [hvalue, FilterValue.members])).trans htype
    cases value with
    | string text => exact ⟨text, rfl⟩
    | _ => cases hstring

namespace Criteria

variable {schema : Schema ι} {entries : List FilterEntry} {c : Criterion}

/-- The pattern of a criterion comes from an entry, so it is text and can only be unreadable. -/
theorem faulty_iff_of_typed (htyped : ∀ e ∈ entries, ∃ type, e.Typed schema type)
    (hc : c ∈ perField entries) {fault : BackendFault} :
    c.Faulty fault ↔ ∃ pattern, c.Unreadable pattern ∧ fault = .badPattern pattern := by
  constructor
  · intro h
    cases h with
    | @notText value h htext =>
      obtain ⟨e, he, _, hsame⟩ := exists_entry_of_mem_perField hc (Criterion.mem_of_clause? h)
      rw [FilterEntry.clause, Prod.mk.injEq] at hsame
      obtain ⟨type, ht⟩ := htyped e he
      obtain ⟨pattern, hpattern⟩ := ht.exists_pattern hsame.1
      rw [← hsame.2, hpattern] at htext
      cases htext
    | @unreadable pattern fault h hread => exact ⟨pattern, ⟨h, fault, hread⟩, rfl⟩
  · rintro ⟨pattern, ⟨h, fault, hread⟩, rfl⟩
    exact .unreadable h hread

end Criteria

/-! ## How a request fails -/

namespace PageRequest

variable {r : PageRequest}

theorem validate_eq_ok_iff : r.validate = .ok () ↔ r.size ≠ 0 ∧ r.page * r.size < counterBound := by
  unfold validate
  by_cases hsize : r.size = 0
  · simp [hsize]
  · by_cases hfits : r.page * r.size < counterBound <;> simp [hsize, hfits]

theorem validate_eq_error_iff {error : StoreError} :
    r.validate = .error error ↔
      r.size = 0 ∧ .invalidPagination .zeroSize = error ∨
      r.size ≠ 0 ∧ counterBound ≤ r.page * r.size ∧
        .invalidPagination (.outOfRange r.page r.size) = error := by
  unfold validate
  by_cases hsize : r.size = 0
  · simp [hsize]
  · by_cases hfits : r.page * r.size < counterBound
    · simp [hsize, hfits]
    · simp [hsize, hfits, Nat.not_lt.mp hfits]

end PageRequest

namespace Memory

/-- Count and window come from one selection. -/
theorem serve_eq_matching (m : Memory) (collection : String) (q : Query) (r : PageRequest) :
    Lookup.serve backend collection q r m =
      (r.validate.bind fun _ => (m.matching collection q).map fun found =>
        Page.ofParts ((q.paginate r).window (q.order found)) found.length r, m) := by
  have hcount : m.count collection q.unpaged = (m.matching collection q).map List.length := rfl
  have hfind : m.find collection (q.paginate r) =
      (m.matching collection q).map fun found => (q.paginate r).window (q.order found) := rfl
  rw [serve_eq, hcount, hfind]
  cases m.matching collection q <;> rfl

end Memory

namespace Collection

/-- How a request for a page fails.  Its tokens are read first, then its page is checked, and then
the patterns of the query are compiled, each from the first on. -/
inductive RequestFails (c : Collection ι) (tokens : List String) (r : PageRequest) :
    StoreError → Prop where
  | token {before token after error} (htokens : tokens = before ++ token :: after)
      (hbefore : ∀ t ∈ before, ∃ e, FilterToken.read c.config c.schema t = .ok e)
      (h : FilterToken.read c.config c.schema token = .error error) :
    RequestFails c tokens r (.filter error)
  | zeroSize {q} (hquery : c.filterQuery tokens = .ok q) (h : r.size = 0) :
    RequestFails c tokens r (.invalidPagination .zeroSize)
  | outOfRange {q} (hquery : c.filterQuery tokens = .ok q) (hsize : r.size ≠ 0)
      (h : counterBound ≤ r.page * r.size) :
    RequestFails c tokens r (.invalidPagination (.outOfRange r.page r.size))
  | pattern {q before criterion after pattern} (hquery : c.filterQuery tokens = .ok q)
      (hsize : r.size ≠ 0) (hfits : r.page * r.size < counterBound)
      (hcriteria : q.criteria = before ++ criterion :: after)
      (hbefore : ∀ b ∈ before, ∀ p, ¬ b.Unreadable p) (h : criterion.Unreadable pattern) :
    RequestFails c tokens r (.backend (.badPattern pattern))

variable {c : Collection ι} {tokens : List String} {r : PageRequest}

theorem compile_eq_error_iff_of_filterQuery {q : Query} (hquery : c.filterQuery tokens = .ok q)
    {error : StoreError} :
    Patterns.compile q.criteria = .error error ↔
      ∃ before criterion after pattern, q.criteria = before ++ criterion :: after ∧
        (∀ b ∈ before, ∀ p, ¬ b.Unreadable p) ∧ criterion.Unreadable pattern ∧
        .backend (.badPattern pattern) = error := by
  -- one by one the criteria are faulty if unreadable, so the first of either is the same
  have hfaulty : ∀ b ∈ q.criteria, ∀ fault,
      b.Faulty fault ↔ ∃ pattern, b.Unreadable pattern ∧ fault = .badPattern pattern := by
    obtain ⟨entries, hread, rfl⟩ := filterQuery_eq_ok_iff.mp hquery
    exact fun b hb _ => Criteria.faulty_iff_of_typed (FilterToken.typed_of_readAll hread) hb
  rw [Patterns.compile_eq_error_iff]
  constructor
  · rintro ⟨before, b, after, fault, hcriteria, hbefore, hb, rfl⟩
    rw [hcriteria, List.forall_mem_append, List.forall_mem_cons] at hfaulty
    obtain ⟨pattern, hpattern, rfl⟩ := (hfaulty.2.1 fault).mp hb
    refine ⟨before, b, after, pattern, hcriteria, fun x hx p hp => ?_, hpattern, rfl⟩
    exact hbefore x hx _ ((hfaulty.1 x hx _).mpr ⟨p, hp, rfl⟩)
  · rintro ⟨before, b, after, pattern, hcriteria, hbefore, hpattern, rfl⟩
    rw [hcriteria, List.forall_mem_append, List.forall_mem_cons] at hfaulty
    refine ⟨before, b, after, .badPattern pattern, hcriteria, fun x hx fault hfault => ?_,
      (hfaulty.2.1 _).mpr ⟨pattern, hpattern, rfl⟩, rfl⟩
    obtain ⟨p, hp, _⟩ := (hfaulty.1 x hx fault).mp hfault
    exact hbefore x hx p hp

/-- What a request for a page answers on a store in memory, which it leaves as it is. -/
theorem page_eq (c : Collection ι) (tokens : List String) (r : PageRequest) (m : Memory) :
    c.page Memory.backend tokens r m =
      ((c.filterQuery tokens).bind fun q => r.validate.bind fun _ =>
        (m.matching c.name q).map fun found =>
          Page.ofParts ((q.paginate r).window (q.order found)) found.length r, m) := by
  rw [page_eq_serve, Action.ofExcept_bind]
  cases c.filterQuery tokens with
  | error error => rfl
  | ok q => exact Memory.serve_eq_matching m c.name q r

theorem wellFormed_of_filterQuery {q : Query} (hquery : c.filterQuery tokens = .ok q) :
    ∀ b ∈ q.criteria, b.WellFormed := by
  obtain ⟨entries, _, rfl⟩ := filterQuery_eq_ok_iff.mp hquery
  exact fun _ => Criteria.wellFormed_of_mem_perField

/-- The steps of a request fail by the rules. -/
theorem requestFails_iff {error : StoreError} :
    c.RequestFails tokens r error ↔
      c.filterQuery tokens = .error error ∨
        ∃ q, c.filterQuery tokens = .ok q ∧
          (r.validate = .error error ∨
            r.validate = .ok () ∧ Patterns.compile q.criteria = .error error) := by
  constructor
  · intro h
    cases h with
    | token htokens hbefore h =>
      refine .inl (FilterToken.filterQuery_eq_error_iff.mpr ⟨_, ?_, rfl⟩)
      exact mapM_eq_error_iff.mpr ⟨_, _, _, htokens, hbefore, h⟩
    | zeroSize hquery h =>
      exact .inr ⟨_, hquery, .inl (PageRequest.validate_eq_error_iff.mpr (.inl ⟨h, rfl⟩))⟩
    | outOfRange hquery hsize h =>
      exact .inr ⟨_, hquery, .inl (PageRequest.validate_eq_error_iff.mpr (.inr ⟨hsize, h, rfl⟩))⟩
    | pattern hquery hsize hfits hcriteria hbefore h =>
      refine .inr ⟨_, hquery, .inr ⟨PageRequest.validate_eq_ok_iff.mpr ⟨hsize, hfits⟩, ?_⟩⟩
      exact (compile_eq_error_iff_of_filterQuery hquery).mpr
        ⟨_, _, _, _, hcriteria, hbefore, h, rfl⟩
  · rintro (h | ⟨q, hquery, h | ⟨hvalid, h⟩⟩)
    · obtain ⟨cause, hread, rfl⟩ := FilterToken.filterQuery_eq_error_iff.mp h
      obtain ⟨before, token, after, htokens, hbefore, h⟩ := mapM_eq_error_iff.mp hread
      exact .token htokens hbefore h
    · obtain ⟨hsize, rfl⟩ | ⟨hsize, hout, rfl⟩ := PageRequest.validate_eq_error_iff.mp h
      · exact .zeroSize hquery hsize
      · exact .outOfRange hquery hsize hout
    · obtain ⟨hsize, hfits⟩ := PageRequest.validate_eq_ok_iff.mp hvalid
      obtain ⟨before, b, after, pattern, hcriteria, hbefore, hpattern, rfl⟩ :=
        (compile_eq_error_iff_of_filterQuery hquery).mp h
      exact .pattern hquery hsize hfits hcriteria hbefore hpattern

theorem page_eq_error_iff {m : Memory} (hm : (m.get? c.name).isSome = true) {error : StoreError} :
    c.page Memory.backend tokens r m = (.error error, m) ↔ c.RequestFails tokens r error := by
  rw [requestFails_iff, page_eq, Prod.mk.injEq, and_iff_left rfl, bind_eq_error_iff]
  refine or_congr_right (exists_congr fun q => and_congr_right fun hquery => ?_)
  simp only [bind_eq_error_iff, map_eq_error_iff, hm, true_and,
    Memory.matching_eq_error_iff (wellFormed_of_filterQuery hquery)]
  exact or_congr_right ⟨fun ⟨_, h⟩ => h, fun h => ⟨(), h⟩⟩

theorem exists_page_iff {m : Memory} (hm : (m.get? c.name).isSome = true) :
    (∃ page, c.page Memory.backend tokens r m = (.ok page, m)) ↔
      ∀ error, ¬ c.RequestFails tokens r error := by
  obtain ⟨result, hresult⟩ : ∃ result, c.page Memory.backend tokens r m = (result, m) :=
    ⟨_, page_eq c tokens r m⟩
  constructor
  · rintro ⟨page, hpage⟩ error hfails
    rw [(page_eq_error_iff hm).mpr hfails] at hpage
    cases hpage
  · intro hfine
    cases result with
    | ok page => exact ⟨page, hresult⟩
    | error error => exact absurd ((page_eq_error_iff hm).mp hresult) (hfine error)

theorem requestFails_or_compiles (c : Collection ι) (tokens : List String) (r : PageRequest) :
    (∃ error, c.RequestFails tokens r error) ∨
      ∃ q ps, c.filterQuery tokens = .ok q ∧ r.validate = .ok () ∧
        Patterns.compile q.criteria = .ok ps := by
  simp only [requestFails_iff]
  cases hquery : c.filterQuery tokens with
  | error error => exact .inl ⟨error, .inl rfl⟩
  | ok q =>
    cases hvalid : r.validate with
    | error error => exact .inl ⟨error, .inr ⟨q, rfl, .inl rfl⟩⟩
    | ok _ =>
      cases hcompile : Patterns.compile q.criteria with
      | error error => exact .inl ⟨error, .inr ⟨q, rfl, .inr ⟨rfl, hcompile⟩⟩⟩
      | ok ps => exact .inr ⟨q, ps, rfl, rfl, hcompile⟩

/-- No check is passed over: what is wrong anywhere in a request makes it fail. -/
theorem exists_requestFails_iff :
    (∃ error, c.RequestFails tokens r error) ↔
      (∃ token ∈ tokens, ∃ error, FilterToken.read c.config c.schema token = .error error) ∨
      (r.size = 0 ∨ counterBound ≤ r.page * r.size) ∨
      ∃ q, c.filterQuery tokens = .ok q ∧ ∃ b ∈ q.criteria, ∃ pattern, b.Unreadable pattern := by
  constructor
  · rintro ⟨error, h⟩
    cases h with
    | token htokens _ h => exact .inl ⟨_, by simp [htokens], _, h⟩
    | zeroSize _ h => exact .inr (.inl (.inl h))
    | outOfRange _ _ h => exact .inr (.inl (.inr h))
    | pattern hquery _ _ hcriteria _ h =>
      exact .inr (.inr ⟨_, hquery, _, by simp [hcriteria], _, h⟩)
  · intro h
    rcases requestFails_or_compiles c tokens r with hfails | ⟨q, ps, hquery, hvalid, hcompile⟩
    · exact hfails
    · exfalso
      rcases h with ⟨token, htoken, error, hread⟩ | hpage |
        ⟨q', hquery', b, hb, pattern, hclause, fault, hread⟩
      · obtain ⟨e, he⟩ := exists_filterQuery_iff.mp ⟨q, hquery⟩ token htoken
        rw [hread] at he
        cases he
      · obtain ⟨hsize, hfits⟩ := PageRequest.validate_eq_ok_iff.mp hvalid
        omega
      · rw [hquery, Except.ok.injEq] at hquery'
        subst hquery'
        exact Patterns.exists_compile_iff.mp ⟨ps, hcompile⟩ b hb _ (.unreadable hclause hread)

/-- What a collection holds has no say in how a request for a page ends: it fails by the rules, for a
token that cannot be read, a page without room or out of range, or a pattern that does not compile,
and otherwise a page is returned.  Once the patterns of a query compile, no document makes it
fail. -/
theorem page_outcome (c : Collection ι) (tokens : List String) (r : PageRequest) :
    (∀ m : Memory, (m.get? c.name).isSome = true →
      (∀ error, c.page Memory.backend tokens r m = (.error error, m) ↔
        c.RequestFails tokens r error) ∧
      ((∃ page, c.page Memory.backend tokens r m = (.ok page, m)) ↔
        ∀ error, ¬ c.RequestFails tokens r error)) ∧
    ((∃ error, c.RequestFails tokens r error) ↔
      (∃ token ∈ tokens, ∃ error, FilterToken.read c.config c.schema token = .error error) ∨
      (r.size = 0 ∨ counterBound ≤ r.page * r.size) ∨
      ∃ q, c.filterQuery tokens = .ok q ∧ ∃ b ∈ q.criteria, ∃ pattern, b.Unreadable pattern) ∧
    ∀ criteria : List Criterion, (∀ b ∈ criteria, b.Constructed) →
      ∀ ps, Patterns.compile criteria = .ok ps →
        ∀ d, ∃ holds, ps.allHold criteria d = .ok holds := by
  refine ⟨fun m hm => ⟨fun error => page_eq_error_iff hm, exists_page_iff hm⟩,
    exists_requestFails_iff, fun criteria hmade ps hcompile d => ?_⟩
  have hwf : ∀ b ∈ criteria, b.WellFormed :=
    fun b hb => Criterion.constructed_iff_wellFormed.mp (hmade b hb)
  exact Patterns.exists_allHold (Patterns.covers_of_compile hwf hcompile) d

theorem page_outcome_threeBookings :
    let bookings : Collection RecordName := ⟨"bookings", RecordName.bookingSchema, .standard⟩
    let tokens := ["room|gte|4", "name|regex|("]
    let named := (Where.regex "name" "^A").and .gt (.string "A")
    ((threeBookings.get? "bookings").isSome = true ∧
      (∀ error, ¬ bookings.RequestFails ["room|gte|4"] ⟨0, 2⟩ error) ∧
      bookings.RequestFails tokens ⟨0, 2⟩ (.backend (.badPattern "(")) ∧
      bookings.page Memory.backend tokens ⟨0, 2⟩ threeBookings =
        (.error (.backend (.badPattern "(")), threeBookings)) ∧
    ∃ ps, Patterns.compile [named] = .ok ps ∧ ∀ d, ∃ holds, ps.allHold [named] d = .ok holds := by
  intro bookings tokens named
  have hsome : (threeBookings.get? "bookings").isSome = true := rfl
  refine ⟨⟨hsome, ?_, ?_⟩, ?_⟩
  · exact (((page_outcome bookings ["room|gte|4"] ⟨0, 2⟩).1 _ hsome).2).mp ⟨_, rfl⟩
  · have hfails : bookings.RequestFails tokens ⟨0, 2⟩ (.backend (.badPattern "(")) := by
      have hquery : Collection.filterQuery ⟨"bookings", RecordName.bookingSchema, .standard⟩
          ["room|gte|4", "name|regex|("] = .ok { Query.empty with
        criteria := [⟨"room", [(.gte, .int32 4)]⟩] ++ Where.regex "name" "(" :: [] } := rfl
      have hread : ∃ fault, Pattern.read "(" = .error fault :=
        isOk_eq_false_iff.mp (by decide +kernel)
      refine .pattern hquery (by decide) (by decide) rfl ?_ ⟨rfl, hread⟩
      simp [Criterion.Unreadable, Criterion.clause?, Keyed.get?]
    exact ⟨hfails, ((page_outcome bookings tokens ⟨0, 2⟩).1 _ hsome).1 _ |>.mpr hfails⟩
  · obtain ⟨ps, hps⟩ : ∃ ps, Patterns.compile [named] = .ok ps :=
      isOk_eq_true_iff.mp (by decide +kernel)
    refine ⟨ps, hps, (page_outcome bookings tokens ⟨0, 2⟩).2.2 [named] ?_ ps hps⟩
    intro b hb
    rw [List.mem_singleton.mp hb]
    exact (Criterion.Constructed.single _ _ _).and _ _

end Collection
end Sift
