import Sift.Mongo.Client
import Sift.Proofs.Outcome

/-!
# Documents come back from storage

The stored form of a document is the document with its identifier under a key of its own, and what
is read back is the stored form without that key.  To take a key away also takes away what was put
under it (`Document.remove_put`), so a document comes back as it was, except that a field that it
had under the key of the identifier is lost (`Mongo.restore_prepare`).  A value that is no document
has no stored form, and a batch with such a value makes no request.
-/

namespace Sift

namespace Document

theorem filter_put {d : Document} (h : d.keys.Nodup) (key : String) (value : Bson) :
    (d.put key value).filter (fun field => field.1 = key) = [(key, value)] :=
  Keyed.filter_put Prod.fst (key, value) h

/-- To take a key away also takes away what was put under it. -/
theorem remove_put (d : Document) (key : String) (value : Bson) :
    (d.put key value).remove key = d.remove key := by
  induction d with
  | nil => simp [put, Keyed.put, remove]
  | cons field d ih =>
    by_cases h : field.1 = key
    · simp [put, Keyed.put, remove, h]
    · simpa [put, Keyed.put, remove, h] using ih

theorem remove_of_fresh {d : Document} {key : String} (h : key ∉ d.keys) : d.remove key = d := by
  refine List.filter_eq_self.mpr fun field hfield => ?_
  rw [decide_eq_true_eq]
  exact fun e => h (e ▸ List.mem_map_of_mem hfield)

/-- A key that stands once is taken out from between what stands before and behind it. -/
theorem remove_middle {before after : Document} {key : String} {value : Bson}
    (h : (Document.keys (before ++ (key, value) :: after)).Nodup) :
    Document.remove (before ++ (key, value) :: after) key = before ++ after := by
  rw [keys, List.map_append, List.map_cons, List.nodup_append, List.nodup_cons] at h
  obtain ⟨-, ⟨hafter, -⟩, hdisjoint⟩ := h
  have hbefore : key ∉ before.keys := fun hmem => hdisjoint _ hmem _ List.mem_cons_self rfl
  have hsplit : Document.remove (before ++ (key, value) :: after) key =
      before.remove key ++ after.remove key := by simp [remove]
  rw [hsplit, remove_of_fresh hbefore, remove_of_fresh hafter]

end Document

namespace Mongo

theorem prepare_eq_error_iff {id : Uuid} {value : Bson} {error : StoreError} :
    prepare id value = .error error ↔
      (∀ d, value ≠ .document d) ∧ error = .invalidDocument "Expected document" := by
  cases value with
  | document d => simp [prepare, Bson.asDocument?]
  | _ => simp [prepare, Bson.asDocument?, eq_comm]

/-! ## Batches -/

theorem insertRequest_eq (collection : String) (batch : List (Uuid × Bson)) :
    insertRequest collection batch =
      (batch.mapM fun entry => prepare entry.1 entry.2).map fun documents =>
        if documents.isEmpty then none else some (.insert collection documents) := by
  unfold insertRequest
  cases batch.mapM fun entry => prepare entry.1 entry.2 <;> rfl

theorem insertRequest_eq_error_iff {collection : String} {batch : List (Uuid × Bson)}
    {error : StoreError} :
    insertRequest collection batch = .error error ↔
      (∃ entry ∈ batch, ∀ d, entry.2 ≠ .document d) ∧
        error = .invalidDocument "Expected document" := by
  have hcause : ∀ {error}, FirstFailure (fun entry : Uuid × Bson => prepare entry.1 entry.2) batch
      error → error = .invalidDocument "Expected document" := by
    rintro error ⟨_, entry, _, _, _, hentry⟩
    exact (prepare_eq_error_iff.mp hentry).2
  have hsome : (∃ entry ∈ batch, ∀ d, entry.2 ≠ .document d) ↔
      ∃ error, FirstFailure (fun entry : Uuid × Bson => prepare entry.1 entry.2) batch error := by
    simp only [exists_firstFailure_iff, prepare_eq_error_iff, exists_and_left, exists_eq, and_true]
  rw [insertRequest_eq, map_eq_error_iff, mapM_eq_error_iff, hsome]
  constructor
  · intro h
    exact ⟨⟨error, h⟩, hcause h⟩
  · rintro ⟨⟨error', h⟩, rfl⟩
    exact hcause h ▸ h

theorem insertRequest_eq_ok_iff {collection : String} {batch : List (Uuid × Bson)}
    {request : Option Request} :
    insertRequest collection batch = .ok request ↔
      ∃ documents, List.Forall₂ (fun entry d => prepare entry.1 entry.2 = .ok d) batch documents ∧
        request = if batch.isEmpty then none else some (.insert collection documents) := by
  rw [insertRequest_eq, map_eq_ok_iff]
  refine exists_congr fun documents => ?_
  rw [mapM_eq_ok_iff]
  refine and_congr_right fun hall => ?_
  have hempty : documents.isEmpty = batch.isEmpty := by cases hall <;> rfl
  rw [hempty, eq_comm]

/-! ## Documents there and back -/

/-- Each document has a stored form, with the identifier once under its key, and comes back from it
with its fields in order.  It loses a field of its own under that key, and nothing else.  A value
that is no document has no stored form, and a batch makes no request at all if it has such a value.
-/
theorem restore_prepare (id : Uuid) :
    (∀ d : Document, d.keys.Nodup → ∃ stored, prepare id (.document d) = .ok stored ∧
      stored.filter (fun field => field.1 = idKey) = [(idKey, .uuid id)] ∧
      (idKey ∉ d.keys → restore stored = .document d) ∧
      ∀ before own after, d = before ++ (idKey, own) :: after →
        restore stored = .document (before ++ after)) ∧
    (∀ value, (∀ d, value ≠ .document d) →
      prepare id value = .error (.invalidDocument "Expected document")) ∧
    ∀ collection batch,
      (∀ error, insertRequest collection batch = .error error ↔
        (∃ entry ∈ batch, ∀ d, entry.2 ≠ .document d) ∧
          error = .invalidDocument "Expected document") ∧
      ∀ request, insertRequest collection batch = .ok request ↔
        ∃ forms, List.Forall₂ (fun entry form => prepare entry.1 entry.2 = .ok form) batch forms ∧
          request = if batch.isEmpty then none else some (.insert collection forms) := by
  refine ⟨fun d hd => ⟨d.put idKey (.uuid id), rfl, Document.filter_put hd idKey (.uuid id),
      fun hfresh => ?_, fun before own after hsplit => ?_⟩,
    fun value h => prepare_eq_error_iff.mpr ⟨h, rfl⟩,
    fun collection batch => ⟨fun error => insertRequest_eq_error_iff,
      fun request => insertRequest_eq_ok_iff⟩⟩
  · rw [restore, Document.remove_put, Document.remove_of_fresh hfresh]
  · subst hsplit
    rw [restore, Document.remove_put, Document.remove_middle hd]

def guestId : Uuid := ⟨[0, 0, 0, 1, 0, 0, 64, 0, 128, 0, 0, 0, 0, 0, 0, 1], rfl⟩

/-- The address has a field with the key of the identifier, which is none of the guest. -/
def guest : Document :=
  [("name", .string "Alice"), ("address", .document [("_id", .null), ("city", .string "Lisbon")])]

/-- The guest with a number under the key of the identifier. -/
def numberedGuest : Document := ("note", .null) :: ("_id", .int32 5) :: guest

theorem restore_prepare_guest :
    guest.keys.Nodup ∧ idKey ∉ guest.keys ∧
    (∃ stored, prepare guestId (.document guest) = .ok stored ∧
      stored.filter (fun field => field.1 = idKey) = [(idKey, .uuid guestId)] ∧
      restore stored = .document guest) ∧
    numberedGuest.keys.Nodup ∧
    (∃ stored, prepare guestId (.document numberedGuest) = .ok stored ∧
      restore stored = .document (("note", .null) :: guest)) ∧
    insertRequest "guests" [(guestId, .document guest), (guestId, .array [.document guest])] =
      .error (.invalidDocument "Expected document") := by
  obtain ⟨hdocument, -, hbatch⟩ := restore_prepare guestId
  have hkeys : guest.keys.Nodup := by decide
  have hfresh : idKey ∉ guest.keys := by decide
  have hnumbered : numberedGuest.keys.Nodup := by decide
  obtain ⟨stored, hstored, honce, hback, -⟩ := hdocument guest hkeys
  obtain ⟨storedNumbered, hstoredNumbered, -, -, hbackNumbered⟩ := hdocument numberedGuest hnumbered
  exact ⟨hkeys, hfresh, ⟨stored, hstored, honce, hback hfresh⟩, hnumbered,
    ⟨storedNumbered, hstoredNumbered, hbackNumbered [("note", .null)] _ guest rfl⟩,
    ((hbatch "guests" _).1 _).mpr ⟨⟨_, List.mem_cons_of_mem _ List.mem_cons_self, nofun⟩, rfl⟩⟩

/-- A guest with a number of its own under the key of the identifier comes back without it. -/
theorem own_key_lost :
    ∃ stored, prepare guestId (.document [("name", .string "Alice"), ("_id", .int32 5)]) =
        .ok stored ∧
      restore stored = .document [("name", .string "Alice")] ∧
      restore stored ≠ .document [("name", .string "Alice"), ("_id", .int32 5)] := by
  refine ⟨_, rfl, rfl, ?_⟩
  intro h
  cases h

end Mongo
end Sift
