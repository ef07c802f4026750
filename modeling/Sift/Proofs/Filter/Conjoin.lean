import Sift.Proofs.Filter.Typed
import Sift.Proofs.Match.Select

/-!
# Queries from several fields

Entries on different fields make criteria that know nothing of each other, and a criterion says of
a document what it says alone.  So tokens on other fields may be added or stand in between:
`filterQuery_conjoins` says that the tokens of two lists together select what both lists select,
and that only the order of the tokens on one field matters.
-/

namespace Sift

/-! ## Criteria of entries on different fields -/

namespace Criteria

variable {xs ys : List FilterEntry}

theorem withClause_ne_nil (clauses : List (Operator × Bson)) (clause : Operator × Bson) :
    withClause clauses clause ≠ [] := by
  unfold withClause
  split
  · rename_i h
    obtain ⟨c, hc, _⟩ := List.mem_map.mp h
    simpa using List.ne_nil_of_mem hc
  · simp

theorem fieldClauses_ne_nil (h : xs ≠ []) : fieldClauses xs ≠ [] := by
  obtain ⟨before, e, rfl⟩ := List.eq_nil_or_concat xs |>.resolve_left h
  rw [List.concat_eq_append, fieldClauses_concat]
  split
  · exact withClause_ne_nil _ _
  · exact List.cons_ne_nil _ _

theorem wellFormed_of_mem_perField {c : Criterion} (h : c ∈ perField xs) : c.WellFormed := by
  obtain ⟨field, hfield, rfl⟩ := List.mem_map.mp h
  have hne : onField xs field ≠ [] :=
    fun hnil => onField_eq_nil_iff.mp hnil (List.mem_eraseDups.mp hfield)
  exact ⟨fieldClauses_ne_nil hne, nodup_fieldClauses _⟩

theorem onField_append (xs ys : List FilterEntry) (field : String) :
    onField (xs ++ ys) field = onField xs field ++ onField ys field :=
  List.filter_append ..

theorem perField_append (h : (xs.map FilterEntry.field).Disjoint (ys.map FilterEntry.field)) :
    perField (xs ++ ys) = perField xs ++ perField ys := by
  -- none of the later fields was seen before
  have hother : (ys.map FilterEntry.field).removeAll (xs.map FilterEntry.field) =
      ys.map FilterEntry.field := by
    refine List.filter_eq_self.mpr fun field hy => ?_
    have hx : field ∉ xs.map FilterEntry.field := fun hx => h hx hy
    simpa using hx
  rw [perField, List.map_append, List.eraseDups_append, hother, List.map_append]
  congr 1 <;> refine List.map_congr_left fun field hfield => ?_
  · have hnil : onField ys field = [] :=
      onField_eq_nil_iff.mpr fun hy => h (List.mem_eraseDups.mp hfield) hy
    rw [onField_append, hnil, List.append_nil]
  · have hnil : onField xs field = [] :=
      onField_eq_nil_iff.mpr fun hx => h hx (List.mem_eraseDups.mp hfield)
    rw [onField_append, hnil, List.nil_append]

/-- Entries that agree field by field make the same criteria, but perhaps in another order. -/
theorem perField_perm (h : ∀ field, onField xs field = onField ys field) :
    (perField xs).Perm (perField ys) := by
  have hfields : (xs.map FilterEntry.field).eraseDups.Perm (ys.map FilterEntry.field).eraseDups := by
    refine (List.perm_ext_iff_of_nodup (nodup_eraseDups _) (nodup_eraseDups _)).mpr fun field => ?_
    rw [List.mem_eraseDups, List.mem_eraseDups, ← not_iff_not, ← onField_eq_nil_iff,
      ← onField_eq_nil_iff, h field]
  have hcriteria : perField ys = (ys.map FilterEntry.field).eraseDups.map fun field =>
      ⟨field, fieldClauses (onField xs field)⟩ :=
    List.map_congr_left fun field _ => by rw [h field]
  rw [hcriteria]
  exact hfields.map _

end Criteria

/-! ## The field of a token -/

namespace FilterToken

variable {ι : Type} [Catalog ι] {config : FilterConfig} {schema : Schema ι}

/-- The field part of a token that has the right shape. -/
def path? (config : FilterConfig) (token : String) : Option String :=
  match Text.trimmedPieces config.tokenDelimiter token with
  | [field, _, _] => some field
  | _ => none

/-- The tokens on a field. -/
def onPath (config : FilterConfig) (field : String) (tokens : List String) : List String :=
  tokens.filter fun token => path? config token = some field

theorem path?_of_reads {token : String} {e : FilterEntry}
    (h : Reads config schema token (.ok e)) : path? config token = some e.field := by
  cases h with
  | entry hshape _ _ _ =>
    rw [path?, Text.trimmedPieces_of_madeOf (hasShape_iff_madeOf.mp hshape)]

/-- The tokens on a field read as the entries on it. -/
theorem readAll_onPath {tokens : List String} {entries : List FilterEntry}
    (h : readAll config schema tokens = .ok entries) (field : String) :
    readAll config schema (onPath config field tokens) = .ok (Criteria.onField entries field) := by
  have hreads := mapM_eq_ok_iff.mp h
  refine mapM_eq_ok_iff.mpr ?_
  clear h
  induction hreads with
  | nil => exact .nil
  | @cons token e _ _ hread _ ih =>
    have hpath := path?_of_reads (read_eq_iff_reads.mp hread)
    rw [onPath, Criteria.onField, List.filter_cons, List.filter_cons, hpath]
    by_cases hfield : e.field = field
    · rw [if_pos (by simp [hfield]), if_pos (by simp [hfield])]
      exact .cons hread ih
    · rw [if_neg (by simp [hfield]), if_neg (by simp [hfield])]
      exact ih

theorem disjoint_fields {xs ys : List String} {ex ey : List FilterEntry}
    (hx : readAll config schema xs = .ok ex) (hy : readAll config schema ys = .ok ey)
    (h : ∀ x ∈ xs, ∀ y ∈ ys, path? config x ≠ path? config y) :
    (ex.map FilterEntry.field).Disjoint (ey.map FilterEntry.field) := by
  intro field hfx hfy
  obtain ⟨e, he, rfl⟩ := List.mem_map.mp hfx
  obtain ⟨e', he', hsame⟩ := List.mem_map.mp hfy
  obtain ⟨x, hxs, hreadx⟩ := exists_of_mem_mapM hx he
  obtain ⟨y, hys, hready⟩ := exists_of_mem_mapM hy he'
  refine h x hxs y hys ?_
  rw [path?_of_reads (read_eq_iff_reads.mp hreadx), path?_of_reads (read_eq_iff_reads.mp hready),
    hsame]

end FilterToken

/-! ## Queries with some of the criteria of others -/

theorem Query.selects_append {q qx qy : Query} (h : q.criteria = qx.criteria ++ qy.criteria)
    (value : Bson) : q.selects value = (qx.selects value && qy.selects value) := by
  unfold selects
  rw [h]
  cases value.asDocument? with
  | none => rfl
  | some d => simp

namespace Memory

variable {m : Memory} {collection : String} {q qx qy : Query}

/-- The first criteria are compiled first, and their failure is the failure of all. -/
theorem matching_append_eq_error_iff (hx : ∀ c ∈ qx.criteria, c.WellFormed)
    (hy : ∀ c ∈ qy.criteria, c.WellFormed) (h : q.criteria = qx.criteria ++ qy.criteria)
    {error : StoreError} :
    m.matching collection q = .error error ↔
      m.matching collection qx = .error error ∨
        (∃ found, m.matching collection qx = .ok found) ∧
          m.matching collection qy = .error error := by
  have hq : ∀ c ∈ q.criteria, c.WellFormed := by
    rw [h]
    exact List.forall_mem_append.mpr ⟨hx, hy⟩
  rw [matching_eq_error_iff hq, matching_eq_error_iff hx, matching_eq_error_iff hy, h,
    Patterns.compile_append_eq_error_iff]
  by_cases hsome : (m.get? collection).isSome = true
  · simp [matching_eq_ok_iff hx, hsome]
  · simp [hsome]

theorem matching_append_of_ok (hx : ∀ c ∈ qx.criteria, c.WellFormed)
    (hy : ∀ c ∈ qy.criteria, c.WellFormed) (h : q.criteria = qx.criteria ++ qy.criteria)
    {foundx foundy : List Bson} (hfx : m.matching collection qx = .ok foundx)
    (hfy : m.matching collection qy = .ok foundy) :
    m.matching collection q =
      .ok ((m.documents collection).filter fun v => qx.selects v && qy.selects v) := by
  have hq : ∀ c ∈ q.criteria, c.WellFormed := by
    rw [h]
    exact List.forall_mem_append.mpr ⟨hx, hy⟩
  refine (matching_eq_ok_iff hq).mpr ⟨fun hsome => ?_, ?_⟩
  · have hcx := Patterns.exists_compile_iff.mp (((matching_eq_ok_iff hx).mp hfx).1 hsome)
    have hcy := Patterns.exists_compile_iff.mp (((matching_eq_ok_iff hy).mp hfy).1 hsome)
    rw [h, Patterns.exists_compile_iff]
    exact List.forall_mem_append.mpr ⟨hcx, hcy⟩
  · exact List.filter_congr fun value _ => Query.selects_append h value

/-- The order of the criteria has no say in what is found. -/
theorem matching_perm (hx : ∀ c ∈ qx.criteria, c.WellFormed)
    (hy : ∀ c ∈ qy.criteria, c.WellFormed) (h : qx.criteria.Perm qy.criteria)
    {found : List Bson} :
    m.matching collection qx = .ok found ↔ m.matching collection qy = .ok found := by
  have hselects : qx.selects = qy.selects := by
    funext value
    unfold Query.selects
    simp only [h.all_eq]
  rw [matching_eq_ok_iff hx, matching_eq_ok_iff hy, Patterns.exists_compile_iff,
    Patterns.exists_compile_iff, hselects]
  simp only [h.mem_iff]

end Memory

/-! ## Queries that tokens make -/

namespace Collection

variable {ι : Type} [Catalog ι] {c : Collection ι}

theorem filterQuery_eq_ok_iff {tokens : List String} {q : Query} :
    c.filterQuery tokens = .ok q ↔
      ∃ entries, FilterToken.readAll c.config c.schema tokens = .ok entries ∧
        { Query.empty with criteria := Criteria.perField entries } = q := by
  have hquery : c.filterQuery tokens =
      ((FilterToken.readAll c.config c.schema tokens).bind Criteria.build).mapError .filter := rfl
  rw [hquery, mapError_eq_ok_iff, bind_eq_ok_iff]
  refine exists_congr fun entries => and_congr_right fun hread => ?_
  rw [Criteria.build_of_typed (FilterToken.typed_of_readAll hread), Except.ok.injEq]

/-- Tokens on other fields add their criteria to those that are there. -/
theorem filterQuery_append {xs ys : List String} {ex ey : List FilterEntry}
    (hx : FilterToken.readAll c.config c.schema xs = .ok ex)
    (hy : FilterToken.readAll c.config c.schema ys = .ok ey)
    (h : ∀ x ∈ xs, ∀ y ∈ ys, FilterToken.path? c.config x ≠ FilterToken.path? c.config y) :
    c.filterQuery (xs ++ ys) = .ok { Query.empty with
      criteria := Criteria.perField ex ++ Criteria.perField ey } := by
  refine filterQuery_eq_ok_iff.mpr ⟨ex ++ ey, ?_, ?_⟩
  · have hforall := List.rel_append (mapM_eq_ok_iff.mp hx) (mapM_eq_ok_iff.mp hy)
    exact mapM_eq_ok_iff.mpr hforall
  · rw [Criteria.perField_append (FilterToken.disjoint_fields hx hy h)]

theorem exists_filterQuery_iff {tokens : List String} :
    (∃ q, c.filterQuery tokens = .ok q) ↔
      ∀ token ∈ tokens, ∃ e, FilterToken.read c.config c.schema token = .ok e := by
  simp only [filterQuery_eq_ok_iff, ← exists_mapM_iff]
  constructor
  · rintro ⟨_, entries, hread, _⟩
    exact ⟨entries, hread⟩
  · rintro ⟨entries, hread⟩
    exact ⟨_, entries, hread, rfl⟩

/-- The tokens of two lists that share no field together select what both lists select, in the order
in which the documents came, and fail as the first list does that fails.  A list of tokens in
another order selects the same, and fails where the list does, as long as the tokens on each field
stay in order. -/
theorem filterQuery_conjoins (c : Collection ι) :
    (∀ xs ys ex ey, FilterToken.readAll c.config c.schema xs = .ok ex →
      FilterToken.readAll c.config c.schema ys = .ok ey →
      (∀ x ∈ xs, ∀ y ∈ ys, FilterToken.path? c.config x ≠ FilterToken.path? c.config y) →
      ∃ qx qy q, c.filterQuery xs = .ok qx ∧ c.filterQuery ys = .ok qy ∧
        c.filterQuery (xs ++ ys) = .ok q ∧
        ∀ m : Memory,
          (∀ error, m.find c.name q = .error error ↔
            m.find c.name qx = .error error ∨
              (∃ found, m.find c.name qx = .ok found) ∧ m.find c.name qy = .error error) ∧
          ∀ foundx foundy, m.find c.name qx = .ok foundx → m.find c.name qy = .ok foundy →
            foundx = (m.documents c.name).filter qx.selects ∧
            foundy = (m.documents c.name).filter qy.selects ∧
            m.find c.name q =
              .ok ((m.documents c.name).filter fun v => qx.selects v && qy.selects v)) ∧
    (∀ tokens tokens' : List String, tokens.Perm tokens' →
      (∀ field, FilterToken.onPath c.config field tokens =
        FilterToken.onPath c.config field tokens') →
      ((∃ q, c.filterQuery tokens = .ok q) ↔ ∃ q', c.filterQuery tokens' = .ok q') ∧
      ∀ q q', c.filterQuery tokens = .ok q → c.filterQuery tokens' = .ok q' →
        ∀ (m : Memory) found, m.find c.name q = .ok found ↔ m.find c.name q' = .ok found) := by
  have hwf : ∀ entries, ∀ c ∈ Criteria.perField entries, c.WellFormed :=
    fun _ _ => Criteria.wellFormed_of_mem_perField
  refine ⟨fun xs ys ex ey hx hy h => ?_, fun tokens tokens' hperm hsame => ⟨?_, ?_⟩⟩
  · refine ⟨_, _, _, filterQuery_eq_ok_iff.mpr ⟨ex, hx, rfl⟩,
      filterQuery_eq_ok_iff.mpr ⟨ey, hy, rfl⟩, filterQuery_append hx hy h, fun m => ?_⟩
    simp only [Memory.find_eq_matching]
    refine ⟨fun error => Memory.matching_append_eq_error_iff (hwf ex) (hwf ey) rfl,
      fun foundx foundy hfx hfy => ⟨?_, ?_, ?_⟩⟩
    · exact ((Memory.matching_eq_ok_iff (hwf ex)).mp hfx).2.symm
    · exact ((Memory.matching_eq_ok_iff (hwf ey)).mp hfy).2.symm
    · exact Memory.matching_append_of_ok (hwf ex) (hwf ey) rfl hfx hfy
  · simp only [exists_filterQuery_iff, hperm.mem_iff]
  · intro q q' hq hq' m found
    obtain ⟨entries, hread, rfl⟩ := filterQuery_eq_ok_iff.mp hq
    obtain ⟨entries', hread', rfl⟩ := filterQuery_eq_ok_iff.mp hq'
    -- tokens in order on each field read as entries in order on it
    have hfields : ∀ field,
        Criteria.onField entries field = Criteria.onField entries' field := by
      intro field
      have hon := FilterToken.readAll_onPath hread field
      rw [hsame field, FilterToken.readAll_onPath hread' field, Except.ok.injEq] at hon
      exact hon.symm
    rw [Memory.find_eq_matching, Memory.find_eq_matching]
    exact Memory.matching_perm (hwf entries) (hwf entries') (Criteria.perField_perm hfields)

/-- Three bookings in the order in which they came. -/
def threeBookings : Memory :=
  (Memory.empty.insert "bookings"
    ([(1, 7, "open"), (2, 4, "closed"), (3, 2, "open")].map fun (n, room, status) =>
      (⟨List.replicate 16 n, List.length_replicate⟩,
        .document [("room", .int32 room), ("status", .string status)]))).2

def roomTokens : List String := ["room|gte|2", "room|lt|5"]

def statusTokens : List String := ["status|in|open;new"]

/-- The token on the status stands between the bounds of the room. -/
def mixedTokens : List String := ["room|gte|2", "status|in|open;new", "room|lt|5"]

theorem onPath_mixedTokens (field : String) :
    FilterToken.onPath .standard field (roomTokens ++ statusTokens) =
      FilterToken.onPath .standard field mixedTokens := by
  have hlow : FilterToken.path? .standard "room|gte|2" = some "room" := rfl
  have hhigh : FilterToken.path? .standard "room|lt|5" = some "room" := rfl
  have hstatus : FilterToken.path? .standard "status|in|open;new" = some "status" := rfl
  by_cases h : field = "status"
  · simp [FilterToken.onPath, roomTokens, statusTokens, mixedTokens, hlow, hhigh, hstatus, h]
  · simp [FilterToken.onPath, roomTokens, statusTokens, mixedTokens, List.filter_cons, hlow, hhigh,
      hstatus, Ne.symm h]

theorem filterQuery_conjoins_threeBookings :
    let bookings : Collection RecordName := ⟨"bookings", RecordName.bookingSchema, .standard⟩
    let booking (room : Int32) (status : String) : Bson :=
      .document [("room", .int32 room), ("status", .string status)]
    (∀ x ∈ roomTokens, ∀ y ∈ statusTokens,
      FilterToken.path? bookings.config x ≠ FilterToken.path? bookings.config y) ∧
    (roomTokens ++ statusTokens).Perm mixedTokens ∧
    ∃ qx qy q q', bookings.filterQuery roomTokens = .ok qx ∧
      bookings.filterQuery statusTokens = .ok qy ∧
      bookings.filterQuery (roomTokens ++ statusTokens) = .ok q ∧
      bookings.filterQuery mixedTokens = .ok q' ∧
      threeBookings.find "bookings" qx = .ok [booking 4 "closed", booking 2 "open"] ∧
      threeBookings.find "bookings" qy = .ok [booking 7 "open", booking 2 "open"] ∧
      threeBookings.find "bookings" q = .ok [booking 2 "open"] ∧
      threeBookings.find "bookings" q' = .ok [booking 2 "open"] := by
  intro bookings booking
  obtain ⟨happend, hreorder⟩ := filterQuery_conjoins bookings
  have hpaths : ∀ x ∈ roomTokens, ∀ y ∈ statusTokens,
      FilterToken.path? bookings.config x ≠ FilterToken.path? bookings.config y := by
    decide +kernel
  have hperm : (roomTokens ++ statusTokens).Perm mixedTokens := .cons _ (.swap _ _ _)
  have hx : bookings.filterQuery roomTokens = .ok { Query.empty with
    criteria := [⟨"room", [(.gte, .int32 2), (.lt, .int32 5)]⟩] } := rfl
  have hy : bookings.filterQuery statusTokens = .ok { Query.empty with
    criteria := [⟨"status", [(.isIn, .array [.string "open", .string "new"])]⟩] } := rfl
  obtain ⟨ex, hex, -⟩ := filterQuery_eq_ok_iff.mp hx
  obtain ⟨ey, hey, -⟩ := filterQuery_eq_ok_iff.mp hy
  obtain ⟨qx, qy, q, hqx, hqy, hq, hfind⟩ := happend _ _ ex ey hex hey hpaths
  rw [hx, Except.ok.injEq] at hqx
  rw [hy, Except.ok.injEq] at hqy
  subst hqx hqy
  have hboth : threeBookings.find "bookings" q = .ok [booking 2 "open"] :=
    ((hfind threeBookings).2 _ _ rfl rfl).2.2
  obtain ⟨hexists, hfound⟩ := hreorder _ _ hperm onPath_mixedTokens
  obtain ⟨q', hq'⟩ := hexists.mp ⟨q, hq⟩
  exact ⟨hpaths, hperm, _, _, q, q', hx, hy, hq, hq', rfl, rfl, hboth,
    (hfound q q' hq hq' threeBookings _).mp hboth⟩

end Collection
end Sift
