import Sift.Proofs.Page.Request

/-!
# Whom a failed request is blamed on

A request for a page or for distinct values fails for its tokens, its path or its page, which is the
client's doing by the kind of the error, or in the store for a pattern that does not compile.  Such a
pattern comes from a token too, but its error is not one of the client (`blame_for_pattern`).
`blame_of_request` says that this is the only exception, and when it occurs.
-/

namespace Sift
namespace Collection

variable {ι : Type} [Catalog ι] {c : Collection ι} {tokens : List String} {q : Query}
  {m : Memory} {r : PageRequest} {path : String} {error : StoreError}

/-- One of the tokens reads as an entry with a pattern that does not compile. -/
def SendsBadPattern (c : Collection ι) (tokens : List String) (pattern : String) : Prop :=
  ∃ token ∈ tokens, ∃ e, FilterToken.read c.config c.schema token = .ok e ∧ e.op = .regex ∧
    e.value.toBson = .string pattern ∧ ∃ fault, Pattern.read pattern = .error fault

/-- Some pattern of the query that the tokens make does not compile. -/
def AsksUnreadable (c : Collection ι) (tokens : List String) : Prop :=
  ∃ q, c.filterQuery tokens = .ok q ∧ ∃ b ∈ q.criteria, ∃ pattern, b.Unreadable pattern

/-! ## Patterns of queries come from tokens -/

theorem sendsBadPattern_of_unreadable (hquery : c.filterQuery tokens = .ok q) {b : Criterion}
    (hb : b ∈ q.criteria) {pattern : String} (h : b.Unreadable pattern) :
    c.SendsBadPattern tokens pattern := by
  obtain ⟨hclause, hread⟩ := h
  obtain ⟨entries, hentries, rfl⟩ := filterQuery_eq_ok_iff.mp hquery
  have hmem := Criterion.mem_of_clause? hclause
  obtain ⟨e, he, _, hsame⟩ := Criteria.exists_entry_of_mem_perField hb hmem
  obtain ⟨token, htoken, hentry⟩ := exists_of_mem_mapM hentries he
  rw [FilterEntry.clause, Prod.mk.injEq] at hsame
  exact ⟨token, htoken, e, hentry, hsame.1, hsame.2, hread⟩

/-- Compiling the patterns of a query from tokens fails for one of the patterns sent. -/
theorem exists_badPattern_of_compile (hquery : c.filterQuery tokens = .ok q)
    (h : Patterns.compile q.criteria = .error error) :
    c.AsksUnreadable tokens ∧
      ∃ pattern, c.SendsBadPattern tokens pattern ∧ .backend (.badPattern pattern) = error := by
  obtain ⟨before, b, after, pattern, hcriteria, _, hb, herror⟩ :=
    (compile_eq_error_iff_of_filterQuery hquery).mp h
  have hmem : b ∈ q.criteria := by simp [hcriteria]
  exact ⟨⟨q, hquery, b, hmem, pattern, hb⟩, pattern,
    sendsBadPattern_of_unreadable hquery hmem hb, herror⟩

/-- Once there is a query, what goes wrong is a pattern that was sent, and the store is blamed. -/
theorem blame_for_pattern (hquery : c.filterQuery tokens = .ok q)
    (h : m.matching c.name q = .error error) :
    ((m.get? c.name).isSome = true ∧ c.AsksUnreadable tokens) ∧ error.isClientError = false ∧
      ∃ pattern, c.SendsBadPattern tokens pattern ∧ error = .backend (.badPattern pattern) := by
  obtain ⟨hsome, hcompile⟩ :=
    (Memory.matching_eq_error_iff (wellFormed_of_filterQuery hquery)).mp h
  obtain ⟨hasks, pattern, hsends, rfl⟩ := exists_badPattern_of_compile hquery hcompile
  exact ⟨⟨hsome, hasks⟩, rfl, pattern, hsends, rfl⟩

theorem exists_matching_error (hsome : (m.get? c.name).isSome = true)
    (hasks : c.AsksUnreadable tokens) :
    ∃ q error, c.filterQuery tokens = .ok q ∧ m.matching c.name q = .error error := by
  obtain ⟨q, hquery, b, hb, pattern, hclause, fault, hread⟩ := hasks
  cases hcompile : Patterns.compile q.criteria with
  | error error => exact ⟨q, error, hquery, Memory.matching_of_faulty hsome hcompile⟩
  | ok ps =>
    have hfine := Patterns.exists_compile_iff.mp ⟨ps, hcompile⟩ b hb
    exact absurd (.unreadable hclause hread) (hfine _)

/-! ## Requests that are checked before documents are looked at -/

/-- Where every check in front of the documents blames the client, the store is blamed for patterns
alone, and for these only once all checks are passed. -/
theorem blame_of_checks {α : Type} {result : Except StoreError α} {Refused : StoreError → Prop}
    {Passed : Prop}
    (hresult : ∀ error, result = .error error ↔
      Refused error ∨
        Passed ∧ ∃ q, c.filterQuery tokens = .ok q ∧ m.matching c.name q = .error error)
    (hrefused : ∀ error, Refused error → error.isClientError = true) :
    (∀ error, result = .error error →
      (error.isClientError = false ↔
        ∃ pattern, c.SendsBadPattern tokens pattern ∧ error = .backend (.badPattern pattern))) ∧
    ((∃ error, result = .error error ∧ error.isClientError = false) ↔
      ((m.get? c.name).isSome = true ∧ c.AsksUnreadable tokens) ∧ Passed) := by
  have hstore : ∀ error, result = .error error → error.isClientError = false →
      Passed ∧ ∃ q, c.filterQuery tokens = .ok q ∧ m.matching c.name q = .error error := by
    intro error h hblame
    rcases (hresult error).mp h with hearly | hlate
    · rw [hrefused error hearly] at hblame
      cases hblame
    · exact hlate
  refine ⟨fun error h => ⟨fun hblame => ?_, ?_⟩, ?_, ?_⟩
  · obtain ⟨-, q, hquery, hmatching⟩ := hstore error h hblame
    exact (blame_for_pattern hquery hmatching).2.2
  · rintro ⟨pattern, -, rfl⟩
    rfl
  · rintro ⟨error, h, hblame⟩
    obtain ⟨hpassed, q, hquery, hmatching⟩ := hstore error h hblame
    exact ⟨(blame_for_pattern hquery hmatching).1, hpassed⟩
  · rintro ⟨⟨hsome, hasks⟩, hpassed⟩
    obtain ⟨q, error, hquery, hmatching⟩ := exists_matching_error hsome hasks
    have hblame := (blame_for_pattern hquery hmatching).2.1
    exact ⟨error, (hresult error).mpr (.inr ⟨hpassed, q, hquery, hmatching⟩), hblame⟩

theorem isClientError_of_filterQuery (h : c.filterQuery tokens = .error error) :
    error.isClientError = true := by
  obtain ⟨cause, hcause, rfl⟩ := FilterToken.filterQuery_eq_error_iff.mp h
  exact FilterToken.blamesClient_of_readAll hcause

theorem isClientError_of_validate (h : r.validate = .error error) : error.isClientError = true := by
  rcases PageRequest.validate_eq_error_iff.mp h with ⟨-, rfl⟩ | ⟨-, -, rfl⟩ <;> rfl

theorem page_eq_error_iff_checks :
    (c.page Memory.backend tokens r m).1 = .error error ↔
      (c.filterQuery tokens = .error error ∨
        (∃ q, c.filterQuery tokens = .ok q) ∧ r.validate = .error error) ∨
      r.validate = .ok () ∧
        ∃ q, c.filterQuery tokens = .ok q ∧ m.matching c.name q = .error error := by
  rw [page_eq]
  cases c.filterQuery tokens with
  | error cause => simp [Except.bind]
  | ok q => cases r.validate <;> simp [Except.bind, map_eq_error_iff]

/-- What a request for distinct values answers on a store in memory. -/
theorem distinct_eq (c : Collection ι) (tokens : List String) (path : String) (m : Memory) :
    c.distinct Memory.backend tokens path m =
      (((c.schema.resolveField path).mapError .filter).bind fun _ =>
        (c.filterQuery tokens).bind fun q => m.distinct c.name path q.unpaged, m) := by
  unfold distinct
  rw [Action.ofExcept_bind]
  cases (c.schema.resolveField path).mapError StoreError.filter with
  | error error => rfl
  | ok type =>
    refine (Action.ofExcept_bind (c.filterQuery tokens) _ m).trans ?_
    cases c.filterQuery tokens <;> rfl

theorem distinct_eq_error_iff_checks :
    (c.distinct Memory.backend tokens path m).1 = .error error ↔
      ((∃ cause, c.schema.resolveField path = .error cause ∧ .filter cause = error) ∨
        (∃ type, c.schema.resolveField path = .ok type) ∧ c.filterQuery tokens = .error error) ∨
      (∃ type, c.schema.resolveField path = .ok type) ∧
        ∃ q, c.filterQuery tokens = .ok q ∧ m.matching c.name q = .error error := by
  have hunpaged : ∀ q : Query,
      m.distinct c.name path q.unpaged = .error error ↔ m.matching c.name q = .error error :=
    fun q => map_eq_error_iff
  rw [distinct_eq]
  cases c.schema.resolveField path with
  | error cause => simp [Except.bind, Except.mapError]
  | ok type => cases c.filterQuery tokens <;> simp [Except.bind, Except.mapError, hunpaged]

/-- A failed request is blamed on the client, except for a pattern from one of its tokens that does
not compile, which is blamed on the store.  This exception is made where nothing else is wrong with
the request and its collection is there. -/
theorem blame_of_request (c : Collection ι) (tokens : List String) (m : Memory) :
    (∀ r,
      (∀ error, (c.page Memory.backend tokens r m).1 = .error error →
        (error.isClientError = false ↔
          ∃ pattern, c.SendsBadPattern tokens pattern ∧
            error = .backend (.badPattern pattern))) ∧
      ((∃ error, (c.page Memory.backend tokens r m).1 = .error error ∧
          error.isClientError = false) ↔
        ((m.get? c.name).isSome = true ∧ c.AsksUnreadable tokens) ∧
          r.size ≠ 0 ∧ r.page * r.size < counterBound)) ∧
    ∀ path,
      (∀ error, (c.distinct Memory.backend tokens path m).1 = .error error →
        (error.isClientError = false ↔
          ∃ pattern, c.SendsBadPattern tokens pattern ∧
            error = .backend (.badPattern pattern))) ∧
      ((∃ error, (c.distinct Memory.backend tokens path m).1 = .error error ∧
          error.isClientError = false) ↔
        ((m.get? c.name).isSome = true ∧ c.AsksUnreadable tokens) ∧
          ∃ type, c.schema.resolveField path = .ok type) := by
  refine ⟨fun r => ?_, fun path => ?_⟩
  · rw [← PageRequest.validate_eq_ok_iff]
    refine blame_of_checks (fun _ => page_eq_error_iff_checks) fun error hrefused => ?_
    rcases hrefused with hquery | ⟨-, hvalid⟩
    · exact isClientError_of_filterQuery hquery
    · exact isClientError_of_validate hvalid
  · refine blame_of_checks (fun _ => distinct_eq_error_iff_checks) fun error hrefused => ?_
    rcases hrefused with ⟨cause, hfield, rfl⟩ | ⟨-, hquery⟩
    · exact Schema.blamesClient_of_follow hfield
    · exact isClientError_of_filterQuery hquery

/-- A request whose second pattern opens a group that nothing closes. -/
def openGroupTokens : List String := ["name|regex|^A", "status|regex|("]

theorem asksUnreadable_openGroupTokens :
    AsksUnreadable ⟨"bookings", RecordName.bookingSchema, .standard⟩ openGroupTokens := by
  have hread : ∃ fault, Pattern.read "(" = .error fault :=
    isOk_eq_false_iff.mp (by decide +kernel)
  exact ⟨_, rfl, Where.regex "status" "(", List.mem_of_getLast? rfl, "(", rfl, hread⟩

theorem blame_of_request_openGroup :
    let bookings : Collection RecordName := ⟨"bookings", RecordName.bookingSchema, .standard⟩
    (∃ error, (bookings.page Memory.backend openGroupTokens ⟨0, 2⟩ threeBookings).1 = .error error ∧
      error.isClientError = false ∧
      ∃ pattern, bookings.SendsBadPattern openGroupTokens pattern ∧
        error = .backend (.badPattern pattern)) ∧
    ∃ error, (bookings.distinct Memory.backend openGroupTokens "room" threeBookings).1 =
      .error error ∧ error.isClientError = false := by
  intro bookings
  have hsome : (threeBookings.get? bookings.name).isSome = true := rfl
  have hasks := asksUnreadable_openGroupTokens
  obtain ⟨hpage, hdistinct⟩ := blame_of_request bookings openGroupTokens threeBookings
  obtain ⟨hcause, hwhen⟩ := hpage ⟨0, 2⟩
  obtain ⟨error, herror, hstore⟩ := hwhen.mpr ⟨⟨hsome, hasks⟩, by decide, by decide⟩
  refine ⟨⟨error, herror, hstore, (hcause error herror).mp hstore⟩, ?_⟩
  exact (hdistinct "room").2.mpr ⟨⟨hsome, hasks⟩, .scalar .int32, rfl⟩

/-- A request may fail for what it asks without being blamed. -/
theorem store_blamed_for_request :
    ¬ ∀ (c : Collection RecordName) (tokens : List String) (r : PageRequest) (m : Memory)
        (error : StoreError),
      (c.page Memory.backend tokens r m).1 = .error error → error.isClientError = true := by
  intro h
  obtain ⟨q, error, hquery, hmatching⟩ :=
    exists_matching_error (m := threeBookings) rfl asksUnreadable_openGroupTokens
  have hvalid : PageRequest.validate ⟨0, 2⟩ = .ok () := rfl
  have herror := page_eq_error_iff_checks.mpr (.inr ⟨hvalid, q, hquery, hmatching⟩)
  have hblame := (blame_for_pattern hquery hmatching).2.1
  rw [h _ _ _ _ _ herror] at hblame
  cases hblame

end Collection
end Sift
