import Mathlib.Data.Set.List
import Sift.Proofs.Memory.Sort
import Sift.Proofs.Page.Request
import Sift.Proofs.Record.Stored

/-!
# Collections of records

A collection that takes records only holds what records are written as, also after batches that were
refused (`Written`, `Written.holdsRecords`).  Where records are read back from what they are written
as, a typed request on it answers what the untyped request does, with each document read as a record
(`Mirrors`).  A batch of records is stored whole, or nothing of it is.  `records_kept` says all this
of bookings and of employees.
-/

namespace Sift

/-! ## What a query finds was stored -/

namespace Patterns

variable {ps : Patterns} {criteria : List Criterion} {error : StoreError}

theorem select_sublist {values found : List Bson} (h : ps.select criteria values = .ok found) :
    found.Sublist values := by
  induction values generalizing found with
  | nil => exact Except.ok.inj h ▸ .slnil
  | cons value values ih =>
    unfold select at h
    cases hd : value.asDocument? with
    | none =>
      simp only [hd] at h
      exact (ih h).cons value
    | some d =>
      simp only [hd] at h
      obtain ⟨holds, -, h⟩ := bind_eq_ok_iff.mp h
      obtain ⟨rest, hrest, h⟩ := bind_eq_ok_iff.mp h
      rw [← Except.ok.inj h]
      cases holds with
      | true => exact (ih hrest).cons_cons value
      | false => exact (ih hrest).cons value

theorem exists_of_allM_eq_error {α ε : Type} {f : α → Except ε Bool} {xs : List α} {e : ε}
    (h : xs.allM f = .error e) : ∃ x ∈ xs, f x = .error e := by
  induction xs with
  | nil => cases h
  | cons x xs ih =>
    rw [List.allM] at h
    rcases bind_eq_error_iff.mp h with hx | ⟨holds, -, hrest⟩
    · exact ⟨x, List.mem_cons_self, hx⟩
    · cases holds with
      | true =>
        obtain ⟨y, hy, hfails⟩ := ih hrest
        exact ⟨y, List.mem_cons_of_mem x hy, hfails⟩
      | false => cases hrest

/-- Only a pattern that was not compiled stops the evaluation of a clause. -/
theorem exists_fault_of_clauseHoldsAt {value : Option Bson} {op : Operator} {bound : Bson}
    (h : ps.clauseHoldsAt value op bound = .error error) : ∃ fault, error = .backend fault := by
  cases value with
  | none => cases h
  | some value =>
    cases op with
    | regex =>
      simp only [clauseHoldsAt, clauseHolds] at h
      split at h
      · exact ⟨_, (Except.error.inj h).symm⟩
      · cases h
    | _ => cases h

theorem exists_fault_of_select {values : List Bson}
    (h : ps.select criteria values = .error error) : ∃ fault, error = .backend fault := by
  induction values with
  | nil => cases h
  | cons value values ih =>
    unfold select at h
    cases hd : value.asDocument? with
    | none =>
      simp only [hd] at h
      exact ih h
    | some d =>
      simp only [hd] at h
      rcases bind_eq_error_iff.mp h with hholds | ⟨holds, -, h⟩
      · obtain ⟨c, -, hc⟩ := exists_of_allM_eq_error hholds
        obtain ⟨clause, -, hclause⟩ := exists_of_allM_eq_error hc
        exact exists_fault_of_clauseHoldsAt hclause
      · rcases bind_eq_error_iff.mp h with hrest | ⟨rest, -, h⟩
        · exact ih hrest
        · cases h

end Patterns

namespace Query

variable {α : Type} {x : α}

theorem mem_of_mem_window {q : Query} {xs : List α} (h : x ∈ q.window xs) : x ∈ xs := by
  unfold window at h
  cases hlimit : q.limit with
  | none =>
    rw [hlimit] at h
    exact List.mem_of_mem_drop h
  | some n =>
    rw [hlimit] at h
    exact List.mem_of_mem_drop (List.mem_of_mem_take h)

end Query

namespace Memory

variable {m : Memory} {collection : String} {q : Query}

theorem mem_documents_of_matching {found : List Bson} (h : m.matching collection q = .ok found)
    {v : Bson} (hv : v ∈ found) : v ∈ m.documents collection := by
  unfold matching at h
  cases hget : m.get? collection with
  | none =>
    rw [hget] at h
    cases h
    cases hv
  | some stored =>
    rw [hget] at h
    obtain ⟨ps, -, hselect⟩ := bind_eq_ok_iff.mp h
    rw [documents, held, hget]
    exact (Patterns.select_sublist hselect).subset hv

/-- A query is answered with stored documents, in whatever order and however many. -/
theorem mem_documents_of_window {found : List Bson} (h : m.matching collection q = .ok found)
    {p : Query} {v : Bson} (hv : v ∈ p.window (q.order found)) : v ∈ m.documents collection :=
  mem_documents_of_matching h ((q.order_perm found).mem_iff.mp (Query.mem_of_mem_window hv))

theorem exists_fault_of_matching {error : StoreError}
    (h : m.matching collection q = .error error) : ∃ fault, error = .backend fault := by
  unfold matching at h
  cases hget : m.get? collection with
  | none =>
    rw [hget] at h
    cases h
  | some stored =>
    rw [hget] at h
    rcases bind_eq_error_iff.mp h with hcompile | ⟨ps, -, hselect⟩
    · obtain ⟨_, _, _, fault, _, _, _, herror⟩ := Patterns.compile_eq_error_iff.mp hcompile
      exact ⟨fault, herror⟩
    · exact Patterns.exists_fault_of_select hselect

/-- The store has a batch more in one collection, and is as it was in the others. -/
structure Gains (collection : String) (batch : Entries) (m m' : Memory) : Prop where
  documents (other : String) : m'.documents other =
    m.documents other ++ if collection = other then batch.map Prod.snd else []
  ids (other : String) (id : Uuid) : (m'.ids other).contains id = true ↔
    (m.ids other).contains id = true ∨ collection = other ∧ id ∈ batch.map Prod.fst

theorem gains_insert {batch : Entries} (h : (m.insert collection batch).1 = .ok ()) :
    Gains collection batch m (m.insert collection batch).2 := by
  have hok : (m.insert collection batch).1.isOk = true := isOk_eq_true_iff.mpr ⟨(), h⟩
  refine ⟨fun other => ?_, fun other id => ?_⟩
  · simp [documents_insert, hok]
  · rw [Memory.ids, held_insert]
    by_cases hother : collection = other
    · rw [if_pos ⟨hother, hok⟩, Holdings.contains_ids_storeAll]
      simp [Memory.ids, hother]
    · simp [Memory.ids, hother]

theorem held_insert_of_error {batch : Entries} {error : StoreError}
    (h : (m.insert collection batch).1 = .error error) (other : String) :
    (m.insert collection batch).2.held other = m.held other := by
  simp [held_insert, isOk_eq_false_iff.mpr ⟨error, h⟩]

end Memory

/-! ## Typed requests -/

def Page.map {α β : Type} (f : α → β) (p : Page α) : Page β := { p with items := p.items.map f }

section

variable {σ β γ : Type}

/-- The typed request answers as the untyped one does, in records instead of what they are stored as,
and nothing fails to be read. -/
def Mirrors (write : γ → β) (typed : Action σ γ) (untyped : Action σ β) (s : σ) : Prop :=
  ∃ answer, typed s = (answer, s) ∧ untyped s = (answer.map write, s) ∧
    ∀ detail, answer ≠ .error (.serialization detail)

theorem mirrors_of_read {untyped : Action σ β} {read : β → Except StoreError γ} {write : γ → β}
    {s : σ} {result : Except StoreError β} (hresult : untyped s = (result, s))
    (hread : ∀ b, result = .ok b → ∃ c, read b = .ok c ∧ write c = b)
    (herror : ∀ detail, result ≠ .error (.serialization detail)) :
    Mirrors write (untyped >>= fun b => Action.ofExcept (read b)) untyped s := by
  have htyped := Action.bind_apply hresult fun b => Action.ofExcept (read b)
  cases result with
  | error error =>
    refine ⟨.error error, htyped, hresult, fun detail h => herror detail ?_⟩
    rw [Except.error.inj h]
  | ok b =>
    obtain ⟨c, hc, hb⟩ := hread b rfl
    have hanswer : (untyped >>= fun b => Action.ofExcept (read b)) s = (.ok c, s) := by
      rw [htyped, ← hc]
      rfl
    exact ⟨.ok c, hanswer, by rw [hresult, ← hb]; rfl, nofun⟩

end

namespace Record

variable {ι α : Type} [Record ι α] {m : Memory} {s : Setup ι}

/-! ## What a written collection holds -/

/-- The stores whose collection of a type was empty first, and was written by typed calls only.  A
call may be refused, and anything may happen to other collections in between. -/
inductive Written (α : Type) [Record ι α] : Memory → Prop where
  | start {m : Memory} (h : m.documents (collection α) = []) : Written α m
  | insert {m : Memory} (h : Written α m) (s : Setup ι) (records : List α) :
    Written α (Record.insert s Memory.backend records m).2
  | insertDocuments {m : Memory} (h : Written α m) (s : Setup ι) (documents : List Bson) :
    Written α (Record.insertDocuments α s Memory.backend documents m).2
  | elsewhere {m m' : Memory} (h : Written α m)
    (hsame : m'.get? (collection α) = m.get? (collection α)) : Written α m'

/-- The collection of a type holds what records of the type are written as. -/
def HoldsRecords (α : Type) [Record ι α] (m : Memory) : Prop :=
  ∃ records : List α, records.mapM toBson = .ok (m.documents (collection α))

theorem entry_eq_ok_iff {r : α} {e : Uuid × Bson} :
    entry r = .ok e ↔ toBson r = .ok e.2 ∧ e.1 = id r := by
  obtain ⟨i, v⟩ := e
  rw [entry, map_eq_ok_iff]
  constructor
  · rintro ⟨_, hwritten, hentry⟩
    cases hentry
    exact ⟨hwritten, rfl⟩
  · rintro ⟨hwritten, rfl⟩
    exact ⟨v, hwritten, rfl⟩

theorem mapM_toBson_of_entry {records : List α} {batch : Entries}
    (h : records.mapM entry = .ok batch) : records.mapM toBson = .ok (batch.map Prod.snd) := by
  rw [mapM_eq_ok_iff, List.forall₂_map_right_iff]
  exact (mapM_eq_ok_iff.mp h).imp fun _ _ hentry => (entry_eq_ok_iff.mp hentry).1

section

variable {records : List α} {documents : List Bson} {batch : Entries} {error : StoreError}

theorem insert_of_entries (h : records.mapM entry = .ok batch) :
    Record.insert s Memory.backend records m = m.insert (collection α) batch := by
  rw [Record.insert, Action.ofExcept_bind, h]
  rfl

theorem insert_of_unwritten (h : records.mapM entry = .error error) :
    Record.insert s Memory.backend records m = (.error error, m) := by
  rw [Record.insert, Action.ofExcept_bind, h]
  rfl

theorem insertDocuments_of_read (h : documents.mapM ofBson = .ok records) :
    insertDocuments α s Memory.backend documents m =
      Record.insert s Memory.backend records m := by
  rw [insertDocuments, Action.ofExcept_bind, h]
  rfl

theorem insertDocuments_of_unread (h : documents.mapM (ofBson (α := α)) = .error error) :
    insertDocuments α s Memory.backend documents m = (.error error, m) := by
  rw [insertDocuments, Action.ofExcept_bind, h]
  rfl

end

theorem HoldsRecords.insert (h : HoldsRecords α m) (s : Setup ι) (more : List α) :
    HoldsRecords α (Record.insert s Memory.backend more m).2 := by
  cases hbatch : more.mapM entry with
  | error error =>
    rw [insert_of_unwritten hbatch]
    exact h
  | ok batch =>
    obtain ⟨records, hrecords⟩ := h
    rw [insert_of_entries hbatch]
    unfold HoldsRecords
    rw [Memory.documents_insert]
    split
    · refine ⟨records ++ more, mapM_eq_ok_iff.mpr ?_⟩
      exact List.rel_append (mapM_eq_ok_iff.mp hrecords)
        (mapM_eq_ok_iff.mp (mapM_toBson_of_entry hbatch))
    · exact ⟨records, by rw [hrecords, List.append_nil]⟩

theorem Written.holdsRecords (h : Written α m) : HoldsRecords α m := by
  induction h with
  | start h => exact ⟨[], by rw [h]; rfl⟩
  | insert _ s records ih => exact ih.insert s records
  | @insertDocuments m _ s documents ih =>
    cases hread : documents.mapM (ofBson (α := α)) with
    | error error =>
      rw [insertDocuments_of_unread hread]
      exact ih
    | ok records =>
      rw [insertDocuments_of_read hread]
      exact ih.insert s records
  | elsewhere _ hsame ih =>
    obtain ⟨records, hrecords⟩ := ih
    exact ⟨records, by rw [Memory.documents, Memory.held, hsame]; exact hrecords⟩

/-! ## Records in a written collection -/

section

variable {written : α → Bson} (hback : ReadsBack α written)
include hback

theorem mapM_ofBson_written (records : List α) :
    (records.map written).mapM ofBson = .ok records := by
  rw [mapM_eq_ok_iff, List.forall₂_map_left_iff]
  exact List.forall₂_same.mpr fun r _ => hback.ofBson_written r

theorem mapM_entry (records : List α) :
    records.mapM entry = .ok (records.map fun r => (id r, written r)) := by
  rw [mapM_eq_ok_iff, List.forall₂_map_right_iff]
  exact List.forall₂_same.mpr fun r _ => entry_eq_ok_iff.mpr ⟨hback.toBson_eq r, rfl⟩

theorem exists_record_of_mem (h : HoldsRecords α m) {v : Bson}
    (hv : v ∈ m.documents (collection α)) : ∃ r : α, written r = v := by
  obtain ⟨records, hrecords⟩ := h
  obtain ⟨r, -, hr⟩ := exists_of_mem_mapM hrecords hv
  rw [hback.toBson_eq, Except.ok.injEq] at hr
  exact ⟨r, hr⟩

theorem exists_read (h : HoldsRecords α m) {values : List Bson}
    (hvalues : ∀ v ∈ values, v ∈ m.documents (collection α)) :
    ∃ records : List α, values.mapM ofBson = .ok records ∧ records.map written = values := by
  have hrange : values ∈ Set.range (List.map written) := by
    rw [Set.range_list_map]
    exact fun v hv => exists_record_of_mem hback h (hvalues v hv)
  obtain ⟨records, rfl⟩ := hrange
  exact ⟨records, mapM_ofBson_written hback records, rfl⟩

theorem exists_page_read (h : HoldsRecords α m) {p : Page Bson}
    (hitems : ∀ v ∈ p.items, v ∈ m.documents (collection α)) :
    ∃ page : Page α, p.tryMapItems ofBson = .ok page ∧ page.map written = p := by
  obtain ⟨records, hread, hrecords⟩ := exists_read hback h hitems
  refine ⟨{ p with items := records }, map_eq_ok_iff.mpr ⟨records, hread, rfl⟩, ?_⟩
  rw [Page.map, hrecords]

theorem find_mirrors (h : HoldsRecords α m) (s : Setup ι) (q : Query) :
    Mirrors (List.map written) (find α s Memory.backend q)
      ((untyped α s).find Memory.backend q) m := by
  have hfind : (untyped α s).find Memory.backend q m = (m.find (collection α) q, m) := rfl
  refine mirrors_of_read hfind (fun values hvalues => ?_) fun detail hfails => ?_
  · obtain ⟨found, hfound, rfl⟩ := map_eq_ok_iff.mp hvalues
    exact exists_read hback h fun v => Memory.mem_documents_of_window hfound
  · obtain ⟨fault, hfault⟩ := Memory.exists_fault_of_matching (map_eq_error_iff.mp hfails)
    cases hfault

theorem page_mirrors [Catalog ι] (h : HoldsRecords α m) (s : Setup ι) (tokens : List String)
    (r : PageRequest) :
    Mirrors (Page.map written) (page α s Memory.backend tokens r)
      ((untyped α s).page Memory.backend tokens r) m := by
  refine mirrors_of_read (Collection.page_eq (untyped α s) tokens r m) (fun p hp => ?_)
    fun detail hfails => ?_
  · obtain ⟨q, -, hp⟩ := bind_eq_ok_iff.mp hp
    obtain ⟨_, -, hp⟩ := bind_eq_ok_iff.mp hp
    obtain ⟨found, hfound, rfl⟩ := map_eq_ok_iff.mp hp
    exact exists_page_read hback h fun v hv =>
      Memory.mem_documents_of_window (p := q.paginate r) hfound hv
  · rcases bind_eq_error_iff.mp hfails with hquery | ⟨q, -, hfails⟩
    · obtain ⟨_, _, herror⟩ := FilterToken.filterQuery_eq_error_iff.mp hquery
      cases herror
    · rcases bind_eq_error_iff.mp hfails with hvalid | ⟨_, -, hfails⟩
      · rcases PageRequest.validate_eq_error_iff.mp hvalid with ⟨-, herror⟩ | ⟨-, -, herror⟩
        · cases herror
        · cases herror
      · obtain ⟨fault, hfault⟩ := Memory.exists_fault_of_matching (map_eq_error_iff.mp hfails)
        cases hfault

/-! ## Batches of records -/

omit hback in
theorem map_fst_entries (written : α → Bson) (records : List α) :
    (records.map fun r => (id r, written r)).map Prod.fst = records.map Record.id := by
  simp

theorem insert_eq_insertDocuments (s : Setup ι) (records : List α) :
    Record.insert s Memory.backend records =
      insertDocuments α s Memory.backend (records.map written) := by
  funext m
  exact (insertDocuments_of_read (mapM_ofBson_written hback records)).symm

theorem insertDocuments_eq {documents : List Bson} {records : List α}
    (hread : documents.mapM ofBson = .ok records) :
    insertDocuments α s Memory.backend documents m =
      m.insert (collection α) (records.map fun r => (id r, written r)) := by
  rw [insertDocuments_of_read hread, insert_of_entries (mapM_entry hback records)]

theorem insertDocuments_of_fresh {documents : List Bson} {records : List α}
    (hread : documents.mapM ofBson = .ok records)
    (hfresh : Memory.Fresh (m.ids (collection α)) (records.map Record.id)) :
    ∃ m', insertDocuments α s Memory.backend documents m = (.ok (), m') ∧
      Memory.Gains (collection α) (records.map fun r => (id r, written r)) m m' := by
  rw [← map_fst_entries written] at hfresh
  have hok := Memory.insert_eq_ok_iff.mpr hfresh
  refine ⟨_, ?_, Memory.gains_insert hok⟩
  rw [insertDocuments_eq hback hread, ← hok]

theorem insertDocuments_of_taken {documents : List Bson} {records : List α}
    (hread : documents.mapM ofBson = .ok records)
    (htaken : ¬ Memory.Fresh (m.ids (collection α)) (records.map Record.id)) :
    ∃ r ∈ records, ∃ m', insertDocuments α s Memory.backend documents m =
        (.error (.documentAlreadyExists (Record.id r).text (collection α)), m') ∧
      ∀ other, m'.held other = m.held other := by
  rw [← map_fst_entries written, ← Memory.insert_eq_ok_iff] at htaken
  cases hcall : (m.insert (collection α) (records.map fun r => (id r, written r))).1 with
  | ok _ => exact absurd hcall htaken
  | error error =>
    obtain ⟨before, i, document, after, hbatch, _, _, rfl⟩ := Memory.insert_eq_error_iff.mp hcall
    have hmem : (i, document) ∈ records.map fun r => (id r, written r) := by simp [hbatch]
    obtain ⟨r, hr, hentry⟩ := List.mem_map.mp hmem
    obtain ⟨rfl, -⟩ := Prod.mk.inj hentry
    refine ⟨r, hr, _, ?_, Memory.held_insert_of_error hcall⟩
    rw [insertDocuments_eq hback hread, ← hcall]

end

/-! ## Kept records -/

/-- A collection of the type that typed calls alone have written can be used as if it held the
records themselves. -/
structure KeepsRecords (α : Type) [Catalog ι] [Record ι α] (written : α → Bson) : Prop where
  /-- No record fails to be written. -/
  writes : ∀ r, toBson r = .ok (written r)
  /-- A stored document is what it is read as, written again. -/
  fixed : ∀ m, Written α m → ∀ v ∈ m.documents (collection α),
    ∃ r : α, ofBson v = .ok r ∧ toBson r = .ok v
  /-- Stored documents are read as records in whatever order an answer has them. -/
  reads : ∀ m, Written α m → ∀ values : List Bson,
    (∀ v ∈ values, v ∈ m.documents (collection α)) →
      ∃ records : List α, values.mapM ofBson = .ok records ∧ records.map written = values
  /-- Queries mirror the untyped ones where the order of the matches is settled. -/
  find : ∀ m, Written α m → ∀ s q,
    (∀ values, m.matching (collection α) q = .ok values → q.Settled values) →
      Mirrors (List.map written) (Record.find α s Memory.backend q)
        ((untyped α s).find Memory.backend q) m
  page : ∀ m, Written α m → ∀ s tokens r,
    Mirrors (Page.map written) (Record.page α s Memory.backend tokens r)
      ((untyped α s).page Memory.backend tokens r) m
  /-- Records are stored as the documents that they are written as. -/
  insert : ∀ s (records : List α), Record.insert s Memory.backend records =
    insertDocuments α s Memory.backend (records.map written)
  /-- Documents that hold records with new identifiers are all stored, as what these records are
  written as. -/
  stores : ∀ s m documents (records : List α), documents.mapM ofBson = .ok records →
    Memory.Fresh (m.ids (collection α)) (records.map Record.id) →
    ∃ m', insertDocuments α s Memory.backend documents m = (.ok (), m') ∧
      Memory.Gains (collection α) (records.map fun r => (id r, written r)) m m'
  /-- A document that holds no record keeps its batch out. -/
  unread : ∀ s m documents, (∃ v ∈ documents, ∃ error, ofBson (α := α) v = .error error) →
    ∃ error, FirstFailure (ofBson (α := α)) documents error ∧
      insertDocuments α s Memory.backend documents m = (.error error, m)
  /-- An identifier that is stored or comes twice keeps its batch out. -/
  taken : ∀ s m documents (records : List α), documents.mapM ofBson = .ok records →
    ¬ Memory.Fresh (m.ids (collection α)) (records.map Record.id) →
    ∃ r ∈ records, ∃ m', insertDocuments α s Memory.backend documents m =
        (.error (.documentAlreadyExists (Record.id r).text (collection α)), m') ∧
      ∀ other, m'.held other = m.held other

theorem ReadsBack.keepsRecords [Catalog ι] {written : α → Bson} (hback : ReadsBack α written) :
    KeepsRecords α written where
  writes := hback.toBson_eq
  fixed m h v hv := by
    obtain ⟨r, rfl⟩ := exists_record_of_mem hback h.holdsRecords hv
    exact ⟨r, hback.ofBson_written r, hback.toBson_eq r⟩
  reads m h values := exists_read hback h.holdsRecords
  find m h s q _ := find_mirrors hback h.holdsRecords s q
  page m h := page_mirrors hback h.holdsRecords
  insert := insert_eq_insertDocuments hback
  stores s m documents records := insertDocuments_of_fresh hback
  unread s m documents h := by
    obtain ⟨error, herror⟩ := exists_firstFailure_iff.mpr h
    exact ⟨error, herror, insertDocuments_of_unread (mapM_eq_error_iff.mpr herror)⟩
  taken s m documents records := insertDocuments_of_taken hback

end Record

/-- Bookings are kept with the guests in them, and employees with managers to any depth. -/
theorem records_kept :
    Record.KeepsRecords Booking Booking.toBson ∧ Record.KeepsRecords Employee Employee.toBson :=
  ⟨Booking.readsBack.keepsRecords, Employee.readsBack.keepsRecords⟩

/-- An employee whose manager has a manager. -/
def assistant : Employee :=
  let numbered (n : UInt8) : Uuid := ⟨List.replicate 15 0 ++ [n], rfl⟩
  let director : Employee := ⟨numbered 3, "Cy", some 9, none, none⟩
  ⟨numbered 1, "Ann", none, some (.ofInt _ 4), some ⟨numbered 2, "Bo", some 3, none, some director⟩⟩

theorem records_kept_assistant :
    let m := (Record.insert .standard Memory.backend [assistant] Memory.empty).2
    Record.Written Employee m ∧
      (∃ employees, Record.find Employee .standard Memory.backend .empty m = (.ok employees, m) ∧
        employees.map Employee.toBson = [assistant.toBson]) ∧
      ∃ error, Record.insertDocuments Employee .standard Memory.backend
        [assistant.toBson, .null] m = (.error error, m) := by
  intro m
  have hwritten : Record.Written Employee m := .insert (.start rfl) .standard [assistant]
  have hnull : ∃ error, Employee.ofBson .null = .error error :=
    ⟨.serialization "not a record", by rw [Employee.ofBson]; rfl⟩
  obtain ⟨-, hkeeps⟩ := records_kept
  refine ⟨hwritten, ?_, ?_⟩
  · have hsettled : ∀ values, m.matching "employees" .empty = .ok values →
        Query.empty.Settled values := fun values _ => Query.settled_of_unsorted rfl values
    obtain ⟨answer, htyped, hfound, -⟩ := hkeeps.find m hwritten .standard .empty hsettled
    have hstored : (Record.untyped Employee .standard).find Memory.backend .empty m =
        (.ok [assistant.toBson], m) := rfl
    rw [hstored, Prod.mk.injEq] at hfound
    obtain ⟨employees, rfl, hemployees⟩ := map_eq_ok_iff.mp hfound.1.symm
    exact ⟨employees, htyped, hemployees⟩
  · obtain ⟨error, -, hrefused⟩ :=
      hkeeps.unread .standard m [assistant.toBson, .null] ⟨.null, by simp, hnull⟩
    exact ⟨error, hrefused⟩

end Sift
