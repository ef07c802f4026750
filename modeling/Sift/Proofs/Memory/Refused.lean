import Sift.Proofs.Memory.Insert

/-!
# What a refused batch leaves

A refused batch leaves no document, but where its collection was not there it leaves the collection,
empty.  Queries do not find anything in either case, yet one for a collection that is there is
compiled first.  `replies_after_refused_insert` says that this is all the difference that later
requests can make out, and `refused_insert_shows` that they can.
-/

namespace Sift

/-- A request to a store. -/
inductive Request where
  | insert (collection : String) (batch : Entries)
  | find (collection : String) (q : Query)
  | count (collection : String) (q : Query)
  | distinct (collection path : String) (q : Query)

inductive Reply where
  | stored
  | found (values : List Bson)
  | counted (n : Nat)

namespace Request

/-- The collection and the query of a request that asks for documents. -/
def query? : Request → Option (String × Query)
  | insert _ _ => none
  | find collection q => some (collection, q)
  | count collection q => some (collection, q)
  | distinct collection _ q => some (collection, q)

/-- The reply where a query finds no document. -/
def nothing : Request → Reply
  | insert _ _ => .stored
  | find _ _ => .found []
  | count _ _ => .counted 0
  | distinct _ _ _ => .found []

/-- The request is a query for the collection that does not compile. -/
def FailsOn (r : Request) (collection : String) (error : StoreError) : Prop :=
  ∃ q, r.query? = some (collection, q) ∧ Patterns.compile q.criteria = .error error

end Request

namespace Memory

/-- The reply to a request, and the store after it. -/
def reply (m : Memory) : Request → Except StoreError Reply × Memory
  | .insert collection batch =>
    ((m.insert collection batch).1.map fun _ => .stored, (m.insert collection batch).2)
  | .find collection q => ((m.find collection q).map .found, m)
  | .count collection q => ((m.count collection q).map .counted, m)
  | .distinct collection path q => ((m.distinct collection path q).map .found, m)

def replies (m : Memory) : List Request → List (Except StoreError Reply)
  | [] => []
  | r :: requests => (m.reply r).1 :: (m.reply r).2.replies requests

def after (m : Memory) (requests : List Request) : Memory :=
  requests.foldl (fun m r => (m.reply r).2) m

theorem replies_getElem? (m : Memory) (before : List Request) (r : Request)
    (later : List Request) :
    (m.replies (before ++ r :: later))[before.length]? = some ((m.after before).reply r).1 := by
  induction before generalizing m with
  | nil => rfl
  | cons first before ih => exact ih (m.reply first).2

section

variable {m : Memory} {collection : String} {q : Query} {r : Request}

/-! ## Queries -/

theorem reply_eq_error_of_matching (h : r.query? = some (collection, q)) {error : StoreError}
    (hm : m.matching collection q = .error error) : (m.reply r).1 = .error error := by
  cases r <;> cases h <;> simp [reply, find, count, distinct, hm, Except.map]

theorem window_order_nil (q : Query) : q.window (q.order []) = [] := by
  have horder : q.order [] = [] := by
    unfold Query.order
    split <;> rfl
  unfold Query.window
  split <;> simp [horder]

theorem reply_eq_nothing_of_matching (h : r.query? = some (collection, q))
    (hm : m.matching collection q = .ok []) : (m.reply r).1 = .ok r.nothing := by
  cases r <;> cases h <;>
    simp [reply, find, count, distinct, hm, Except.map, Request.nothing, window_order_nil,
      distinctValues]

theorem matching_of_empty (h : m.get? collection = some .empty) (q : Query) :
    m.matching collection q = (Patterns.compile q.criteria).map fun _ => [] := by
  simp only [matching, h, Query.select]
  cases Patterns.compile q.criteria <;> rfl

end

/-! ## Stores that differ in an empty collection -/

section

variable {m m' : Memory} {collection other : String} {batch : Entries}

/-- The same is kept under each name. -/
def Alike (m m' : Memory) : Prop := ∀ other, m'.get? other = m.get? other

/-- The second store has the collection, empty, and the first does not have it. -/
structure Ghost (collection : String) (m m' : Memory) : Prop where
  missing : m.get? collection = none
  empty : m'.get? collection = some .empty
  others : ∀ other, other ≠ collection → m'.get? other = m.get? other

theorem insert_fst_congr (h : m'.held collection = m.held collection) (batch : Entries) :
    (m'.insert collection batch).1 = (m.insert collection batch).1 := by
  unfold held at h
  unfold insert
  simp only [h]
  split <;> rfl

theorem get?_insert_congr (h : m'.held collection = m.held collection)
    (hother : other ≠ collection → m'.get? other = m.get? other) (batch : Entries) :
    (m'.insert collection batch).2.get? other = (m.insert collection batch).2.get? other := by
  by_cases e : other = collection
  · rw [e, get?_insert_self, get?_insert_self, h, insert_fst_congr h]
  · rw [get?_insert_of_ne e, get?_insert_of_ne e, hother e]

/-- A refused batch leaves the store as it was, but for a collection that was not there. -/
theorem alike_or_ghost_of_refused {error : StoreError}
    (h : (m.insert collection batch).1 = .error error) :
    ((m.get? collection).isSome = true ∧ Alike m (m.insert collection batch).2) ∨
      Ghost collection m (m.insert collection batch).2 := by
  have hself : (m.insert collection batch).2.get? collection = some (m.held collection) := by
    simp [get?_insert_self, isOk_eq_false_iff.mpr ⟨error, h⟩]
  cases hget : m.get? collection with
  | some stored =>
    refine .inl ⟨rfl, fun other => ?_⟩
    by_cases e : other = collection
    · rw [e, hself, hget, held, hget]
      rfl
    · exact get?_insert_of_ne e batch
  | none =>
    refine .inr ⟨hget, ?_, fun other e => get?_insert_of_ne e batch⟩
    rw [hself, held, hget]
    rfl

theorem Alike.reply (h : Alike m m') (r : Request) :
    (m'.reply r).1 = (m.reply r).1 ∧ Alike (m.reply r).2 (m'.reply r).2 := by
  cases r with
  | insert collection batch =>
    have hheld : m'.held collection = m.held collection := by simp [held, h collection]
    refine ⟨?_, fun other => get?_insert_congr hheld (fun _ => h other) batch⟩
    simp only [Memory.reply, insert_fst_congr hheld]
  | find collection q =>
    exact ⟨by simp only [Memory.reply, find, matching_congr (h collection)], h⟩
  | count collection q =>
    exact ⟨by simp only [Memory.reply, count, matching_congr (h collection)], h⟩
  | distinct collection path q =>
    exact ⟨by simp only [Memory.reply, distinct, matching_congr (h collection)], h⟩

namespace Ghost

theorem held_eq (h : Ghost collection m m') (other : String) :
    m'.held other = m.held other := by
  by_cases e : other = collection
  · simp [held, e, h.missing, h.empty]
  · simp [held, h.others other e]

/-- A call to store in the collection makes the stores alike, since it leaves the collection with
both. -/
theorem alike_insert (h : Ghost collection m m') (batch : Entries) :
    (m'.insert collection batch).1 = (m.insert collection batch).1 ∧
      Alike (m.insert collection batch).2 (m'.insert collection batch).2 :=
  ⟨insert_fst_congr (h.held_eq collection) batch,
    fun other => get?_insert_congr (h.held_eq collection) (h.others other) batch⟩

/-- Any other request leaves the difference as it is. -/
theorem reply_snd (h : Ghost collection m m') {r : Request}
    (hr : ∀ batch, r ≠ .insert collection batch) :
    Ghost collection (m.reply r).2 (m'.reply r).2 := by
  cases r with
  | insert target batch =>
    have hne : collection ≠ target := fun e => hr batch (e ▸ rfl)
    refine ⟨?_, ?_, fun other e => ?_⟩
    · exact (get?_insert_of_ne hne batch).trans h.missing
    · exact (get?_insert_of_ne hne batch).trans h.empty
    · exact get?_insert_congr (h.held_eq target) (fun _ => h.others other e) batch
  | find _ _ | count _ _ | distinct _ _ _ => exact h

theorem reply_of_failsOn (h : Ghost collection m m') {r : Request} {error : StoreError}
    (hr : r.FailsOn collection error) :
    (m'.reply r).1 = .error error ∧ (m.reply r).1 = .ok r.nothing := by
  obtain ⟨q, hquery, hcompile⟩ := hr
  refine ⟨reply_eq_error_of_matching hquery ?_, reply_eq_nothing_of_matching hquery ?_⟩
  · rw [matching_of_empty h.empty, hcompile]
    rfl
  · exact matching_of_missing h.missing

theorem reply_fst (h : Ghost collection m m') {r : Request}
    (hr : ∀ error, ¬ r.FailsOn collection error) : (m'.reply r).1 = (m.reply r).1 := by
  have hmatching : ∀ target q, r.query? = some (target, q) →
      m'.matching target q = m.matching target q := by
    intro target q hquery
    by_cases e : target = collection
    · subst e
      rw [matching_of_missing h.missing, matching_of_empty h.empty]
      cases hcompile : Patterns.compile q.criteria with
      | error error => exact absurd ⟨q, hquery, hcompile⟩ (hr error)
      | ok ps => rfl
    · exact matching_congr (h.others target e) q
  cases r with
  | insert target batch =>
    simp only [Memory.reply, insert_fst_congr (h.held_eq target)]
  | find target q => simp only [Memory.reply, find, hmatching target q rfl]
  | count target q => simp only [Memory.reply, count, hmatching target q rfl]
  | distinct target path q => simp only [Memory.reply, distinct, hmatching target q rfl]

end Ghost

/-! ## Runs of requests -/

theorem Alike.after (h : Alike m m') (before : List Request) :
    Alike (m.after before) (m'.after before) := by
  induction before generalizing m m' with
  | nil => exact h
  | cons r before ih => exact ih (h.reply r).2

theorem Ghost.after (h : Ghost collection m m') {before : List Request}
    (hbefore : ∀ batch, Request.insert collection batch ∉ before) :
    Ghost collection (m.after before) (m'.after before) := by
  induction before generalizing m m' with
  | nil => exact h
  | cons r before ih =>
    refine ih (h.reply_snd fun batch e => ?_) fun batch hmem => ?_
    · exact hbefore batch (e ▸ List.mem_cons_self)
    · exact hbefore batch (List.mem_cons_of_mem r hmem)

theorem Ghost.alike_after (h : Ghost collection m m') {before : List Request}
    (hbefore : Request.insert collection batch ∈ before) :
    Alike (m.after before) (m'.after before) := by
  induction before generalizing m m' with
  | nil => cases hbefore
  | cons r before ih =>
    by_cases hr : ∃ first, r = .insert collection first
    · obtain ⟨first, rfl⟩ := hr
      exact (h.alike_insert first).2.after before
    · have hne := not_exists.mp hr
      rcases List.mem_cons.mp hbefore with e | hmem
      · exact absurd e.symm (hne batch)
      · exact ih (h.reply_snd hne) hmem

end

/-- The collection is not there, none of the requests before stores in it, and the request is a
query for it that does not compile. -/
def Shows (m : Memory) (collection : String) (before : List Request) (r : Request)
    (error : StoreError) : Prop :=
  m.get? collection = none ∧ (∀ batch, Request.insert collection batch ∉ before) ∧
    r.FailsOn collection error

/-- After a refused batch each request of a run gets the reply that it would have got without it.
Only where the collection was not there, and until the next call to store in it, a query for it that
does not compile fails, while it would have found nothing. -/
theorem replies_after_refused_insert {m : Memory} {collection : String} {batch : Entries}
    {id name : String}
    (h : (m.insert collection batch).1 = .error (.documentAlreadyExists id name))
    (before : List Request) (r : Request) (later : List Request) :
    let told := ((m.insert collection batch).2.replies (before ++ r :: later))[before.length]?
    let untold := (m.replies (before ++ r :: later))[before.length]?
    (∀ error, m.Shows collection before r error →
      told = some (.error error) ∧ untold = some (.ok r.nothing)) ∧
    ((∀ error, ¬ m.Shows collection before r error) → told = untold) := by
  intro told untold
  simp only [told, untold, replies_getElem?, Option.some.injEq]
  rcases alike_or_ghost_of_refused h with ⟨hsome, halike⟩ | hghost
  · refine ⟨fun error hshows => ?_, fun _ => ((halike.after before).reply r).1⟩
    rw [hshows.1] at hsome
    cases hsome
  · refine ⟨fun error hshows => ?_, fun hhides => ?_⟩
    · exact (hghost.after hshows.2.1).reply_of_failsOn hshows.2.2
    -- the stores differ until the first call to store in the collection, and are alike from there
    · by_cases hstores : ∃ batch, Request.insert collection batch ∈ before
      · obtain ⟨batch, hmem⟩ := hstores
        exact ((hghost.alike_after hmem).reply r).1
      · have hnone := not_exists.mp hstores
        refine (hghost.after hnone).reply_fst fun error hfails => ?_
        exact hhides error ⟨hghost.missing, hnone, hfails⟩

/-- A batch that names one room twice. -/
def roomTwice : Entries := [(roomId 1, .document []), (roomId 1, .document [])]

/-- A query whose pattern lacks the end of its group. -/
def openGroup : Query := Query.empty.withCriterion (Where.regex "name" "(")

theorem compile_openGroup :
    Patterns.compile openGroup.criteria = .error (.backend (.badPattern "(")) := by
  obtain ⟨fault, hread⟩ : ∃ fault, Pattern.read "(" = .error fault :=
    isOk_eq_false_iff.mp (by decide +kernel)
  exact Patterns.compile_eq_error_iff.mpr
    ⟨[], Where.regex "name" "(", [], _, rfl, by simp, .unreadable rfl hread, rfl⟩

theorem replies_after_refused_insert_roomTwice :
    (empty.insert "rooms" roomTwice).1 =
      .error (.documentAlreadyExists (roomId 1).text "rooms") ∧
    (let before := [Request.count "rooms" .empty]
      let requests := before ++ .find "rooms" openGroup :: []
      ((empty.insert "rooms" roomTwice).2.replies requests)[before.length]? =
          some (.error (.backend (.badPattern "("))) ∧
        (empty.replies requests)[before.length]? = some (.ok (.found []))) ∧
    (let before := [Request.insert "rooms" (roomTwice.take 1)]
      let requests := before ++ .find "rooms" openGroup :: []
      ((empty.insert "rooms" roomTwice).2.replies requests)[before.length]? =
        (empty.replies requests)[before.length]?) := by
  have hrefused : (empty.insert "rooms" roomTwice).1 =
      .error (.documentAlreadyExists (roomId 1).text "rooms") := rfl
  refine ⟨hrefused, ?_, ?_⟩
  · refine (replies_after_refused_insert hrefused _ _ []).1 _ ⟨rfl, by simp, ?_⟩
    exact ⟨openGroup, rfl, compile_openGroup⟩
  · refine (replies_after_refused_insert hrefused _ _ []).2 fun error hshows => ?_
    exact hshows.2.1 _ List.mem_cons_self

/-- A refused batch can be told from no batch: a query for its collection fails where it would have
found nothing. -/
theorem refused_insert_shows :
    ¬ ∀ (m : Memory) (collection : String) (batch : Entries) (id name : String),
      (m.insert collection batch).1 = .error (.documentAlreadyExists id name) →
        ∀ requests, (m.insert collection batch).2.replies requests = m.replies requests := by
  intro h
  have hsame := h empty "rooms" roomTwice _ _ rfl [.find "rooms" openGroup]
  have htold : (empty.insert "rooms" roomTwice).2.replies [.find "rooms" openGroup] =
      [.error (.backend (.badPattern "("))] :=
    congrArg (fun told => [told])
      (reply_eq_error_of_matching rfl (matching_of_faulty rfl compile_openGroup))
  have huntold : empty.replies [.find "rooms" openGroup] = [.ok (.found [])] := rfl
  rw [htold, huntold] at hsame
  cases hsame

end Memory
end Sift
