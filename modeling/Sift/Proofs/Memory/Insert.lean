import Mathlib.Data.List.Nodup
import Sift.Proofs.Hash
import Sift.Proofs.Match.Select

/-!
# Batches in a store

A batch is stored whole if its identifiers are new to its collection, and otherwise refused as the
first one that is not demands.  `insert_eq_ok_iff`, `insert_eq_error_iff` and `held_insert` say
so of one call, and `insertAll_keeps` of a run of calls on an empty store: a collection holds the
batches that were stored in it, one after the other, and no identifier twice.

The identifiers that are taken and the documents are kept apart.  A run of calls keeps them in step:
the set has the identifiers of the batches that were stored, and the list has their documents
(`lists_ids_insertAll`, `documents_insertAll`).
-/

namespace Sift
namespace Memory

/-- The identifiers are new: none is taken, and none comes twice. -/
def Fresh (taken : HashSet Uuid) (ids : List Uuid) : Prop :=
  ids.Nodup ∧ ∀ id ∈ ids, taken.contains id = false

instance (taken : HashSet Uuid) (ids : List Uuid) : Decidable (Fresh taken ids) :=
  inferInstanceAs (Decidable (_ ∧ _))

/-- None of the identifiers was named before. -/
def Unnamed (named : HashSet Uuid) (ids : List Uuid) : Prop :=
  ∀ id ∈ ids, named.contains id = false

theorem fresh_cons {taken named : HashSet Uuid} {id : Uuid} {ids : List Uuid} :
    Fresh taken (id :: ids) ∧ Unnamed named (id :: ids) ↔
      (taken.contains id = false ∧ named.contains id = false) ∧
        Fresh taken ids ∧ Unnamed (named.insert id).2 ids := by
  simp only [Fresh, Unnamed, List.nodup_cons, List.forall_mem_cons, HashSet.contains_insert,
    Bool.or_eq_false_iff, beq_eq_false_iff_ne]
  constructor
  · rintro ⟨⟨⟨hid, hnodup⟩, htaken, hall⟩, hnamed, hrest⟩
    exact ⟨⟨htaken, hnamed⟩, ⟨hnodup, hall⟩,
      fun x hx => ⟨fun e => hid (e ▸ hx), hrest x hx⟩⟩
  · rintro ⟨⟨htaken, hnamed⟩, ⟨hnodup, hall⟩, hrest⟩
    exact ⟨⟨⟨fun hid => (hrest id hid).1 rfl, hnodup⟩, htaken, hall⟩, hnamed,
      fun x hx => (hrest x hx).2⟩

section

variable {taken named : HashSet Uuid} {ids : List Uuid} {id : Uuid}

theorem firstTaken_cons_of_new (htaken : taken.contains id = false)
    (hnamed : named.contains id = false) :
    firstTaken taken named (id :: ids) = firstTaken taken (named.insert id).2 ids := by
  simp [firstTaken, HashSet.insert, htaken, hnamed]

theorem firstTaken_cons_of_old (h : taken.contains id = true ∨ named.contains id = true) :
    firstTaken taken named (id :: ids) = some id := by
  rcases h with h | h <;> simp [firstTaken, HashSet.insert, h]

theorem firstTaken_eq_none_iff :
    firstTaken taken named ids = none ↔ Fresh taken ids ∧ Unnamed named ids := by
  induction ids generalizing named with
  | nil => simp [firstTaken, Fresh, Unnamed]
  | cons x ids ih =>
    rw [fresh_cons]
    by_cases hold : taken.contains x = true ∨ named.contains x = true
    · rw [firstTaken_cons_of_old hold]
      rcases hold with h | h <;> simp [h]
    · rw [not_or, Bool.not_eq_true, Bool.not_eq_true] at hold
      rw [firstTaken_cons_of_new hold.1 hold.2, ih]
      simp [hold]

theorem firstTaken_eq_some_iff :
    firstTaken taken named ids = some id ↔
      ∃ before after, ids = before ++ id :: after ∧ (Fresh taken before ∧ Unnamed named before) ∧
        (taken.contains id = true ∨ named.contains id = true ∨ id ∈ before) := by
  induction ids generalizing named with
  | nil => simp [firstTaken]
  | cons x ids ih =>
    by_cases hold : taken.contains x = true ∨ named.contains x = true
    · rw [firstTaken_cons_of_old hold, Option.some.injEq]
      constructor
      · rintro rfl
        exact ⟨[], ids, rfl, by simp [Fresh, Unnamed], by tauto⟩
      · rintro ⟨before, after, hids, hnew, -⟩
        cases before with
        | nil => exact (List.cons.inj hids).1
        | cons y before =>
          rw [(List.cons.inj hids).1] at hold
          have hy := (fresh_cons.mp hnew).1
          simp [hy] at hold
    · rw [not_or, Bool.not_eq_true, Bool.not_eq_true] at hold
      rw [firstTaken_cons_of_new hold.1 hold.2, ih]
      simp only [HashSet.contains_insert, Bool.or_eq_true, beq_iff_eq]
      constructor
      · rintro ⟨before, after, rfl, hnew, hid⟩
        refine ⟨x :: before, after, rfl, fresh_cons.mpr ⟨hold, hnew⟩, ?_⟩
        rw [List.mem_cons]
        tauto
      · rintro ⟨before, after, hids, hnew, hid⟩
        cases before with
        | nil =>
          rw [(List.cons.inj hids).1] at hold
          simp [hold] at hid
        | cons y before =>
          obtain ⟨rfl, rfl⟩ := List.cons.inj hids
          refine ⟨before, after, rfl, (fresh_cons.mp hnew).2, ?_⟩
          rw [List.mem_cons] at hid
          tauto

end

theorem unnamed_empty (ids : List Uuid) : Unnamed .empty ids := fun _ _ => rfl

/-- The first identifier of a batch that is not new, if there is one. -/
theorem firstTaken_batch_eq_none_iff {taken : HashSet Uuid} {ids : List Uuid} :
    firstTaken taken .empty ids = none ↔ Fresh taken ids := by
  rw [firstTaken_eq_none_iff, and_iff_left (unnamed_empty ids)]

theorem firstTaken_batch_eq_some_iff {taken : HashSet Uuid} {ids : List Uuid} {id : Uuid} :
    firstTaken taken .empty ids = some id ↔
      ∃ before after, ids = before ++ id :: after ∧ Fresh taken before ∧
        (taken.contains id = true ∨ id ∈ before) := by
  rw [firstTaken_eq_some_iff]
  simp only [and_iff_left (unnamed_empty _), HashSet.contains_empty, Bool.false_eq_true, false_or]

theorem Fresh.tail {taken : HashSet Uuid} {id : Uuid} {ids : List Uuid}
    (h : Fresh taken (id :: ids)) : Fresh (taken.insert id).2 ids := by
  refine ⟨(List.nodup_cons.mp h.1).2, fun x hx => ?_⟩
  rw [HashSet.contains_insert, Bool.or_eq_false_iff, beq_eq_false_iff_ne]
  exact ⟨fun e => (List.nodup_cons.mp h.1).1 (e ▸ hx), h.2 x (List.mem_cons_of_mem id hx)⟩

end Memory

/-! ## What is taken in -/

namespace Holdings

theorem documents_storeAll (held : Holdings) (batch : Entries) :
    (held.storeAll batch).documents = held.documents ++ batch.map Prod.snd := by
  unfold storeAll
  induction batch generalizing held with
  | nil => simp
  | cons entry batch ih => simp [ih, store]

theorem contains_ids_storeAll (held : Holdings) (batch : Entries) {id : Uuid} :
    (held.storeAll batch).ids.contains id = true ↔
      held.ids.contains id = true ∨ id ∈ batch.map Prod.fst := by
  unfold storeAll
  induction batch generalizing held with
  | nil => simp
  | cons entry batch ih =>
    rw [List.foldl_cons, ih, store, HashSet.contains_insert, Bool.or_eq_true, beq_iff_eq,
      List.map_cons, List.mem_cons, eq_comm]
    tauto

/-- Identifiers that are new go into the set as their documents go into the list. -/
theorem lists_ids_storeAll {held : Holdings} {ids : List Uuid} (h : held.ids.Lists ids)
    {batch : Entries} (hfresh : Memory.Fresh held.ids (batch.map Prod.fst)) :
    (held.storeAll batch).ids.Lists (ids ++ batch.map Prod.fst) := by
  unfold storeAll
  induction batch generalizing held ids with
  | nil => simpa using h
  | cons entry batch ih =>
    have hnew : entry.1 ∉ ids := by
      rw [← h.contains_iff, hfresh.2 entry.1 (by simp)]
      exact Bool.false_ne_true
    have hstep : (held.store entry).ids.Lists (ids ++ [entry.1]) := by
      have hinsert := (h.insert entry.1).2
      rwa [if_neg hnew] at hinsert
    simpa using ih hstep hfresh.tail

end Holdings

namespace Memory

/-! ## One batch -/

theorem get?_put_self (m : Memory) (collection : String) (held : Holdings) :
    (m.put collection held).get? collection = some held := by
  simp only [get?, put]
  rw [Keyed.get?_put_self Prod.fst (collection, held)]
  rfl

theorem get?_put_of_ne (m : Memory) {collection other : String} (h : other ≠ collection)
    (held : Holdings) : (m.put collection held).get? other = m.get? other := by
  simp only [get?, put]
  rw [Keyed.get?_put_of_ne Prod.fst (x := (collection, held)) (fun e => h e.symm)]

section

variable {m : Memory} {collection other : String} {batch : Entries}

theorem insert_of_fresh (h : Fresh (m.ids collection) (batch.map Prod.fst)) :
    m.insert collection batch =
      (.ok (), m.put collection ((m.held collection).storeAll batch)) := by
  have hnone := firstTaken_batch_eq_none_iff.mpr h
  unfold insert
  simp only [ids, held] at hnone ⊢
  rw [hnone]

theorem insert_of_taken {id : Uuid}
    (h : firstTaken (m.ids collection) .empty (batch.map Prod.fst) = some id) :
    m.insert collection batch =
      (.error (.documentAlreadyExists id.text collection),
        m.put collection (m.held collection)) := by
  unfold insert
  simp only [ids, held] at h ⊢
  rw [h]

theorem insert_eq_ok_iff :
    (m.insert collection batch).1 = .ok () ↔ Fresh (m.ids collection) (batch.map Prod.fst) := by
  rw [← firstTaken_batch_eq_none_iff]
  cases h : firstTaken (m.ids collection) .empty (batch.map Prod.fst) with
  | none => simp [insert_of_fresh (firstTaken_batch_eq_none_iff.mp h)]
  | some id => simp [insert_of_taken h]

/-- A batch is refused for its first identifier that is taken or comes again. -/
theorem insert_eq_error_iff {error : StoreError} :
    (m.insert collection batch).1 = .error error ↔
      ∃ before id document after, batch = before ++ (id, document) :: after ∧
        Fresh (m.ids collection) (before.map Prod.fst) ∧
        ((m.ids collection).contains id = true ∨ id ∈ before.map Prod.fst) ∧
        error = .documentAlreadyExists id.text collection := by
  constructor
  · intro h
    cases htaken : firstTaken (m.ids collection) .empty (batch.map Prod.fst) with
    | none =>
      rw [insert_of_fresh (firstTaken_batch_eq_none_iff.mp htaken)] at h
      cases h
    | some id =>
      rw [insert_of_taken htaken] at h
      obtain ⟨_, _, hids, hfresh, hid⟩ := firstTaken_batch_eq_some_iff.mp htaken
      obtain ⟨before, rest, rfl, rfl, hrest⟩ := List.map_eq_append_iff.mp hids
      obtain ⟨⟨_, document⟩, after, rfl, rfl, rfl⟩ := List.map_eq_cons_iff.mp hrest
      exact ⟨before, _, document, after, rfl, hfresh, hid, (Except.error.inj h).symm⟩
  · rintro ⟨before, id, document, after, rfl, hfresh, hid, rfl⟩
    have htaken : firstTaken (m.ids collection) .empty
        ((before ++ (id, document) :: after).map Prod.fst) = some id := by
      rw [List.map_append, List.map_cons]
      exact firstTaken_batch_eq_some_iff.mpr ⟨_, _, rfl, hfresh, hid⟩
    rw [insert_of_taken htaken]

/-- A call changes what is kept under the name of its collection only. -/
theorem get?_insert_of_ne (h : other ≠ collection) (batch : Entries) :
    (m.insert collection batch).2.get? other = m.get? other := by
  cases htaken : firstTaken (m.ids collection) .empty (batch.map Prod.fst) with
  | none =>
    rw [insert_of_fresh (firstTaken_batch_eq_none_iff.mp htaken)]
    exact get?_put_of_ne m h _
  | some id =>
    rw [insert_of_taken htaken]
    exact get?_put_of_ne m h _

theorem get?_insert_self (m : Memory) (collection : String) (batch : Entries) :
    (m.insert collection batch).2.get? collection =
      some (if (m.insert collection batch).1.isOk then (m.held collection).storeAll batch
        else m.held collection) := by
  cases htaken : firstTaken (m.ids collection) .empty (batch.map Prod.fst) with
  | none =>
    rw [insert_of_fresh (firstTaken_batch_eq_none_iff.mp htaken)]
    exact get?_put_self m collection _
  | some id =>
    rw [insert_of_taken htaken]
    exact get?_put_self m collection _

/-- A batch that is stored is taken in by its collection. -/
theorem held_insert (m : Memory) (collection other : String) (batch : Entries) :
    (m.insert collection batch).2.held other =
      if collection = other ∧ (m.insert collection batch).1.isOk then
        (m.held other).storeAll batch
      else m.held other := by
  by_cases h : collection = other
  · subst h
    rw [held, get?_insert_self, Option.getD_some]
    simp
  · have hne : other ≠ collection := fun e => h e.symm
    rw [held, get?_insert_of_ne hne, if_neg fun hstored => h hstored.1]
    rfl

theorem documents_insert (m : Memory) (collection other : String) (batch : Entries) :
    (m.insert collection batch).2.documents other =
      m.documents other ++
        if collection = other ∧ (m.insert collection batch).1.isOk then batch.map Prod.snd
        else [] := by
  rw [documents, held_insert]
  split
  · exact Holdings.documents_storeAll _ batch
  · exact (List.append_nil _).symm

theorem matching_congr {m' : Memory} (h : m'.get? collection = m.get? collection) (q : Query) :
    m'.matching collection q = m.matching collection q := by
  simp [matching, h]

end

/-! ## A run of batches -/

/-- How the calls of a run end, one by one, and the store that they leave. -/
def insertAll (m : Memory) : List (String × Entries) → List (Except StoreError Unit) × Memory
  | [] => ([], m)
  | (collection, batch) :: calls =>
    let call := m.insert collection batch
    let rest := call.2.insertAll calls
    (call.1 :: rest.1, rest.2)

/-- The batches that were stored in a collection, one after the other. -/
def stored (collection : String) (calls : List (String × Entries))
    (outcomes : List (Except StoreError Unit)) : Entries :=
  ((calls.zip outcomes).filter fun (call, outcome) => call.1 = collection && outcome.isOk).flatMap
    fun (call, _) => call.2

theorem stored_cons (collection : String) (call : String × Entries)
    (calls : List (String × Entries)) (outcome : Except StoreError Unit)
    (outcomes : List (Except StoreError Unit)) :
    stored collection (call :: calls) (outcome :: outcomes) =
      (if call.1 = collection ∧ outcome.isOk then call.2 else []) ++
        stored collection calls outcomes := by
  by_cases h : call.1 = collection ∧ outcome.isOk = true
  · simp [stored, h]
  · rw [if_neg h]
    rw [not_and] at h
    by_cases hcall : call.1 = collection <;> simp [stored, hcall, h]

theorem insertAll_append (m : Memory) (calls more : List (String × Entries)) :
    m.insertAll (calls ++ more) =
      ((m.insertAll calls).1 ++ ((m.insertAll calls).2.insertAll more).1,
        ((m.insertAll calls).2.insertAll more).2) := by
  induction calls generalizing m with
  | nil => rfl
  | cons call calls ih => simp only [List.cons_append, insertAll, ih]

theorem length_insertAll (m : Memory) (calls : List (String × Entries)) :
    (m.insertAll calls).1.length = calls.length := by
  induction calls generalizing m with
  | nil => rfl
  | cons call calls ih => simp only [insertAll, List.length_cons, ih]

/-- Each call of a run ends as it does on the store that the calls before it left. -/
theorem outcome_insertAll (m : Memory) (before after : List (String × Entries))
    (collection : String) (batch : Entries) :
    (m.insertAll (before ++ (collection, batch) :: after)).1[before.length]? =
      some ((m.insertAll before).2.insert collection batch).1 := by
  rw [insertAll_append, ← length_insertAll m before]
  simp [insertAll]

theorem documents_insertAll (m : Memory) (collection : String)
    (calls : List (String × Entries)) :
    (m.insertAll calls).2.documents collection =
      m.documents collection ++ (stored collection calls (m.insertAll calls).1).map Prod.snd := by
  induction calls generalizing m with
  | nil => simp [insertAll, stored]
  | cons call calls ih =>
    simp only [insertAll]
    rw [ih, documents_insert, stored_cons, List.append_assoc, List.map_append]
    split <;> rfl

/-- A call keeps the set of a collection in step with the identifiers that were stored in it. -/
theorem lists_ids_insert {m : Memory} {other : String} {ids : List Uuid}
    (h : (m.ids other).Lists ids) (collection : String) (batch : Entries) :
    ((m.insert collection batch).2.ids other).Lists (ids ++
      if collection = other ∧ (m.insert collection batch).1.isOk then batch.map Prod.fst
      else []) := by
  rw [Memory.ids, held_insert]
  split
  · rename_i hstored
    obtain ⟨rfl, hok⟩ := hstored
    obtain ⟨_, houtcome⟩ := isOk_eq_true_iff.mp hok
    exact Holdings.lists_ids_storeAll h (insert_eq_ok_iff.mp houtcome)
  · rw [List.append_nil]
    exact h

theorem lists_ids_insertAll {m : Memory} {collection : String} {ids : List Uuid}
    (h : (m.ids collection).Lists ids) (calls : List (String × Entries)) :
    ((m.insertAll calls).2.ids collection).Lists
      (ids ++ (stored collection calls (m.insertAll calls).1).map Prod.fst) := by
  -- any store may come first, so the calls are taken from the front
  induction calls generalizing m ids with
  | nil => simpa [insertAll, stored] using h
  | cons call calls ih =>
    have hrest := ih (lists_ids_insert h call.1 call.2)
    simp only [insertAll]
    rw [stored_cons, List.map_append, ← List.append_assoc]
    convert hrest using 3
    split <;> rfl

theorem find_empty (m : Memory) (collection : String) :
    m.find collection .empty =
      .ok ((m.documents collection).filter fun value => value.asDocument?.isSome) := by
  have hselects : Query.selects .empty = fun value => value.asDocument?.isSome := by
    funext value
    cases value <;> rfl
  have hcompile : Patterns.compile Query.empty.criteria = .ok .empty := rfl
  rw [find, matching_of_compile (by simp [Query.empty]) hcompile, hselects]
  rfl

/-- Each batch of a run is stored if its identifiers are new to its collection, and is otherwise
refused for its first identifier that is not.  Afterwards a collection lists the documents of the
batches that were stored in it, one after the other, and its set has their identifiers, each once.
A refused batch leaves nothing in either, and no batch changes what other collections answer. -/
theorem insertAll_keeps (calls : List (String × Entries)) :
    let outcomes := (empty.insertAll calls).1
    let m := (empty.insertAll calls).2
    (∀ before collection batch after, calls = before ++ (collection, batch) :: after →
      let taken := (empty.insertAll before).2.ids collection
      ∃ outcome, outcomes[before.length]? = some outcome ∧
        (outcome = .ok () ↔ Fresh taken (batch.map Prod.fst)) ∧
        ∀ error, outcome = .error error ↔
          ∃ first id document rest, batch = first ++ (id, document) :: rest ∧
            Fresh taken (first.map Prod.fst) ∧
            (taken.contains id = true ∨ id ∈ first.map Prod.fst) ∧
            error = .documentAlreadyExists id.text collection) ∧
    (∀ collection,
      m.documents collection = (stored collection calls outcomes).map Prod.snd ∧
      (∀ id, (m.ids collection).contains id = true ↔
        id ∈ (stored collection calls outcomes).map Prod.fst) ∧
      (m.ids collection).keys.Perm ((stored collection calls outcomes).map Prod.fst) ∧
      (m.ids collection).keys.Nodup ∧
      m.find collection .empty =
        .ok (((stored collection calls outcomes).map Prod.snd).filter fun value =>
          value.asDocument?.isSome)) ∧
    (∀ (m : Memory) collection batch error, (m.insert collection batch).1 = .error error →
      ∀ other, (m.insert collection batch).2.documents other = m.documents other ∧
        (m.insert collection batch).2.ids other = m.ids other) ∧
    ∀ (m : Memory) collection other batch, other ≠ collection → ∀ q path,
      (m.insert collection batch).2.find other q = m.find other q ∧
      (m.insert collection batch).2.count other q = m.count other q ∧
      (m.insert collection batch).2.distinct other path q = m.distinct other path q := by
  intro outcomes m
  refine ⟨?_, fun collection => ?_, ?_, ?_⟩
  · rintro before collection batch after rfl
    exact ⟨_, outcome_insertAll empty before after collection batch, insert_eq_ok_iff,
      fun error => insert_eq_error_iff⟩
  · have hdocuments : m.documents collection = (stored collection calls outcomes).map Prod.snd :=
      documents_insertAll empty collection calls
    have hids : (m.ids collection).Lists ((stored collection calls outcomes).map Prod.fst) :=
      lists_ids_insertAll (m := empty) .empty calls
    refine ⟨hdocuments, hids.contains_iff, hids.perm_keys,
      hids.perm_keys.nodup_iff.mpr hids.nodup, ?_⟩
    rw [find_empty, hdocuments]
  · intro m collection batch error h other
    have hheld : (m.insert collection batch).2.held other = m.held other := by
      simp [held_insert, isOk_eq_false_iff.mpr ⟨error, h⟩]
    exact ⟨congrArg Holdings.documents hheld, congrArg Holdings.ids hheld⟩
  · intro m collection other batch h q path
    have hmatching := matching_congr (get?_insert_of_ne (m := m) h batch) q
    exact ⟨by rw [find, find, hmatching], by rw [count, count, hmatching],
      by rw [distinct, distinct, hmatching]⟩

def roomId (n : UInt8) : Uuid := ⟨n :: List.replicate 15 0, rfl⟩

/-- Batches for two collections: the second takes a room again, and the fourth names a guest twice. -/
def deliveries : List (String × Entries) :=
  [("rooms", [(roomId 1, .document [("floor", .int32 1)]), (roomId 2, .string "closed")]),
    ("rooms", [(roomId 3, .document []), (roomId 2, .document [])]),
    ("guests", [(roomId 2, .document [])]),
    ("guests", [(roomId 4, .document []), (roomId 4, .document [])]),
    ("rooms", [(roomId 3, .document [("floor", .int32 3)])])]

theorem insertAll_keeps_deliveries :
    let outcomes := (empty.insertAll deliveries).1
    let m := (empty.insertAll deliveries).2
    outcomes[1]? = some (.error (.documentAlreadyExists (roomId 2).text "rooms")) ∧
    outcomes[3]? = some (.error (.documentAlreadyExists (roomId 4).text "guests")) ∧
    outcomes[4]? = some (.ok ()) ∧
    (m.ids "rooms").keys.Perm [roomId 1, roomId 2, roomId 3] ∧
    (m.ids "rooms").contains (roomId 2) = true ∧
    m.find "rooms" .empty =
      .ok [.document [("floor", .int32 1)], .document [("floor", .int32 3)]] ∧
    (m.insert "rooms" [(roomId 1, .null)]).2.ids "rooms" = m.ids "rooms" ∧
    (m.insert "rooms" [(roomId 5, .null)]).2.count "guests" .empty = m.count "guests" .empty := by
  intro outcomes m
  obtain ⟨hcalls, hkept, hrefused, hother⟩ := insertAll_keeps deliveries
  obtain ⟨-, hcontains, hids, -, hfind⟩ := hkept "rooms"
  refine ⟨?_, ?_, ?_, hids, (hcontains _).mpr (by decide), hfind, ?_, ?_⟩
  · obtain ⟨outcome, hat, -, herror⟩ := hcalls (deliveries.take 1) "rooms" _ _ rfl
    rw [← (herror _).mpr ⟨[(roomId 3, .document [])], roomId 2, _, [], rfl, ?_, ?_, rfl⟩]
    · exact hat
    · decide
    · decide
  · obtain ⟨outcome, hat, -, herror⟩ := hcalls (deliveries.take 3) "guests" _ _ rfl
    rw [← (herror _).mpr ⟨[(roomId 4, .document [])], roomId 4, _, [], rfl, ?_, ?_, rfl⟩]
    · exact hat
    · decide
    · decide
  · obtain ⟨outcome, hat, hok, -⟩ := hcalls (deliveries.take 4) "rooms" _ [] rfl
    rw [← hok.mpr (by decide)]
    exact hat
  · exact (hrefused m "rooms" _ _ rfl "rooms").2
  · exact (hother m "rooms" "guests" _ (by decide) .empty "").2.1

end Memory
end Sift
