import Sift.Proofs.Memory.Distinct

/-!
# Distinct values and the order of insertion

The same documents may come in another order.  Then other values stand for the ones that are equal
to them, but where no value found has a NaN each one listed is equal to one that is listed in the
other order.

There are as many of them if equality is transitive on the values found
(`length_distinctValues_of_perm`).  It is not where a double is equal to two integers that differ:
the two are listed apart if they come first, and as one with the double if that comes first
(`distinctValues_of_not_same`).
-/

namespace Sift

namespace Memory

/-! ## Values in another order -/

theorem distinctValues_cons (x : Bson) (xs : List Bson) :
    distinctValues (x :: xs) = x :: distinctValues (xs.filter fun y => !x.same y) := by
  induction xs using List.reverseRecOn with
  | nil => rfl
  | append_singleton xs y ih =>
    rw [← List.cons_append, distinctValues_concat, ih, List.filter_append]
    cases hxy : x.same y with
    | true => simp [hxy]
    | false =>
      rw [List.filter_singleton, hxy, Bool.not_false, cond_true, distinctValues_concat,
        List.any_cons, hxy, Bool.false_or]
      split <;> rfl

/-- Three values of which the middle one is equal to the others are counted as two or as one. -/
theorem distinctValues_of_not_same {x y z : Bson} (hyx : y.same x = true) (hxy : x.same y = true)
    (hyz : y.same z = true) (hxz : x.same z = false) :
    distinctValues [x, z, y] = [x, z] ∧ distinctValues [y, x, z] = [y] := by
  simp [distinctValues, hyx, hxy, hyz, hxz]

section

variable {P : Bson → Prop} (hcomm : ∀ x y, P x → P y → x.same y = y.same x)
  (htrans : ∀ x y z, P x → P y → P z → x.same y = true → y.same z = true → x.same z = true)
include hcomm htrans

theorem filter_congr_of_same {x y : Bson} (hx : P x) (hy : P y) (h : x.same y = true)
    {zs : List Bson} (hzs : ∀ z ∈ zs, P z) :
    (zs.filter fun z => !x.same z) = zs.filter fun z => !y.same z := by
  refine List.filter_congr fun z hz => ?_
  have hyx : y.same x = true := by rwa [hcomm y x hy hx]
  rw [Bool.eq_iff_iff.mpr ⟨htrans y x z hy hx (hzs z hz) hyx, htrans x y z hx hy (hzs z hz) h⟩]

theorem length_distinctValues_swap {x y : Bson} (hx : P x) (hy : P y) {zs : List Bson}
    (hzs : ∀ z ∈ zs, P z) :
    (distinctValues (y :: x :: zs)).length = (distinctValues (x :: y :: zs)).length := by
  have hback := hcomm y x hy hx
  rw [distinctValues_cons, distinctValues_cons x]
  cases h : x.same y with
  | true =>
    rw [h] at hback
    simp only [List.filter_cons, h, hback, Bool.not_true, Bool.false_eq_true, if_false,
      List.length_cons, filter_congr_of_same hcomm htrans hx hy h hzs]
  | false =>
    rw [h] at hback
    simp only [List.filter_cons, h, hback, Bool.not_false, if_true, distinctValues_cons,
      List.length_cons, List.filter_filter, Bool.and_comm]

theorem length_distinctValues_of_perm {xs ys : List Bson} (h : xs.Perm ys) (hxs : ∀ x ∈ xs, P x) :
    (distinctValues xs).length = (distinctValues ys).length := by
  -- what follows a value is filtered by it, so a swap is followed through any filter
  suffices hfilter : ∀ p : Bson → Bool,
      (distinctValues (xs.filter p)).length = (distinctValues (ys.filter p)).length by
    simpa using hfilter fun _ => true
  induction h with
  | nil => exact fun _ => rfl
  | @cons x xs ys _ ih =>
    intro p
    rw [List.forall_mem_cons] at hxs
    cases hp : p x with
    | false => simpa [hp] using ih hxs.2 p
    | true =>
      simp only [List.filter_cons, hp, if_true, distinctValues_cons, List.filter_filter,
        List.length_cons]
      exact congrArg _ (ih hxs.2 _)
  | swap x y zs =>
    intro p
    simp only [List.forall_mem_cons] at hxs
    cases hpx : p x <;> cases hpy : p y <;> simp only [List.filter_cons, hpx, hpy, if_true,
      Bool.false_eq_true, if_false]
    refine length_distinctValues_swap hcomm htrans hxs.2.1 hxs.1 fun z hz => ?_
    exact hxs.2.2 z (List.mem_filter.mp hz).1
  | @trans xs ys zs hxy _ ih ih' =>
    intro p
    rw [ih hxs p, ih' (fun y hy => hxs y (hxy.mem_iff.mpr hy)) p]

end

/-- Each value of the first list is equal to one of the second. -/
def Represented (vs ws : List Bson) : Prop := ∀ v ∈ vs, ∃ w ∈ ws, v.same w = true

theorem represented_of_firstSeen {seen others vs ws : List Bson} (hv : FirstSeen seen vs)
    (hw : FirstSeen others ws) (hsub : seen ⊆ others) (hunique : ∀ x ∈ others, x.Unique)
    (hnan : ∀ x ∈ others, x.NaNFree) : Represented vs ws := by
  intro v hmem
  have hother : v ∈ others := hsub (hv.sublist.subset hmem)
  obtain ⟨w, hw', hwv⟩ := hw.covers v hother
  refine ⟨w, hw', ?_⟩
  rcases hwv with rfl | hwv
  · exact (Bson.same_self_iff (hunique w hother)).mpr (hnan w hother)
  · exact Bson.same_symm (hunique w (hw.sublist.subset hw')) (hunique v hother) hwv

/-! ## Documents in another order -/

theorem fresh_append {taken : HashSet Uuid} {ids more : List Uuid}
    (h : Fresh taken (ids ++ more)) :
    Fresh taken ids ∧ more.Nodup ∧ ∀ id ∈ more, taken.contains id = false ∧ id ∉ ids := by
  obtain ⟨hnodup, hall⟩ := h
  obtain ⟨hids, hmore, hne⟩ := List.nodup_append.mp hnodup
  refine ⟨⟨hids, fun id hid => hall id (List.mem_append_left more hid)⟩, hmore, fun id hid => ?_⟩
  exact ⟨hall id (List.mem_append_right ids hid), fun h => hne id h id hid rfl⟩

/-- The store after a run of batches for one collection. -/
def insertEach (m : Memory) (collection : String) (batches : List Entries) : Memory :=
  (m.insertAll (batches.map fun batch => (collection, batch))).2

theorem documents_insertEach {m : Memory} {collection : String} {batches : List Entries}
    (h : Fresh (m.ids collection) (batches.flatten.map Prod.fst)) :
    (m.insertEach collection batches).documents collection =
      m.documents collection ++ batches.flatten.map Prod.snd := by
  induction batches generalizing m with
  | nil => simp [insertEach, insertAll]
  | cons batch batches ih =>
    rw [List.flatten_cons, List.map_append] at h
    obtain ⟨hbatch, hnodup, hrest⟩ := fresh_append h
    have hok := isOk_eq_true_iff.mpr ⟨_, insert_eq_ok_iff.mpr hbatch⟩
    have hstep : (m.insert collection batch).2.documents collection =
        m.documents collection ++ batch.map Prod.snd := by
      rw [documents_insert, if_pos ⟨rfl, hok⟩]
    have hfresh : Fresh ((m.insert collection batch).2.ids collection)
        (batches.flatten.map Prod.fst) := by
      refine ⟨hnodup, fun id hid => ?_⟩
      rw [Memory.ids, held_insert, if_pos ⟨rfl, hok⟩, ← Bool.not_eq_true,
        Holdings.contains_ids_storeAll]
      obtain ⟨htaken, hbefore⟩ := hrest id hid
      exact fun h => h.elim (fun h => Bool.false_ne_true (htaken.symm.trans h)) hbefore
    have hmore := ih hfresh
    rw [hstep, List.append_assoc] at hmore
    rw [List.flatten_cons, List.map_append]
    exact hmore

/-- Two runs of batches bring the same documents with new identifiers into a collection. -/
structure Reordered (m : Memory) (collection : String) (batches others : List Entries) : Prop where
  perm : batches.flatten.Perm others.flatten
  fresh : Fresh (m.ids collection) (batches.flatten.map Prod.fst)
  unique : ∀ value ∈ m.documents collection ++ batches.flatten.map Prod.snd, value.Unique

section

variable {m : Memory} {collection : String} {batches others : List Entries}

theorem Reordered.perm_documents (h : m.Reordered collection batches others) :
    ((m.insertEach collection batches).documents collection).Perm
      ((m.insertEach collection others).documents collection) := by
  have hfresh : Fresh (m.ids collection) (others.flatten.map Prod.fst) := by
    have hids := h.perm.map Prod.fst
    exact ⟨hids.nodup_iff.mp h.fresh.1, fun id hid => h.fresh.2 id (hids.mem_iff.mpr hid)⟩
  rw [documents_insertEach h.fresh, documents_insertEach hfresh]
  exact (h.perm.map Prod.snd).append_left _

theorem Reordered.unique_documents (h : m.Reordered collection batches others) :
    ∀ value ∈ (m.insertEach collection batches).documents collection, value.Unique := by
  rw [documents_insertEach h.fresh]
  exact h.unique

/-- Where documents come in another order, and no value found has a NaN, each distinct value that is
listed is equal to one that is listed then.  There are as many, unless three of the values found
would by themselves be counted as two in one order and as one in another, since two different
integers are rounded to a double. -/
theorem distinct_of_reordered {q : Query} (hq : ∀ c ∈ q.criteria, c.WellFormed) {ps : Patterns}
    (hcompile : Patterns.compile q.criteria = .ok ps)
    (h : m.Reordered collection batches others) (path : String) :
    ∃ selected vs ws,
      (m.insertEach collection batches).matching collection q = .ok selected ∧
      (m.insertEach collection batches).distinct collection path q = .ok vs ∧
      (m.insertEach collection others).distinct collection path q = .ok ws ∧
      ((∀ v ∈ selected.flatMap (valuesAt path), v.NaNFree) →
        Represented vs ws ∧ Represented ws vs ∧
        (vs.length = ws.length ∨
          ∃ x ∈ selected.flatMap (valuesAt path), ∃ y ∈ selected.flatMap (valuesAt path),
            ∃ z ∈ selected.flatMap (valuesAt path), Bson.Rounded x y z ∧
              distinctValues [x, z, y] = [x, z] ∧ distinctValues [y, x, z] = [y])) := by
  refine ⟨_, _, _, matching_of_compile hq hcompile, distinct_of_compile hq hcompile path,
    distinct_of_compile hq hcompile path, ?_⟩
  have hperm := (h.perm_documents.filter q.selects).flatMap_right (valuesAt path)
  have hunique : ∀ v ∈ (((m.insertEach collection batches).documents collection).filter
      q.selects).flatMap (valuesAt path), v.Unique :=
    unique_of_mem_valuesAt fun value hvalue =>
      h.unique_documents value (List.mem_filter.mp hvalue).1
  generalize (((m.insertEach collection batches).documents collection).filter
    q.selects).flatMap (valuesAt path) = seen at hperm hunique ⊢
  intro hnan
  have hv := firstSeen_distinctValues seen
  have hw := firstSeen_distinctValues ((((m.insertEach collection others).documents
    collection).filter q.selects).flatMap (valuesAt path))
  refine ⟨represented_of_firstSeen hv hw hperm.subset (fun x hx => hunique x (hperm.mem_iff.mpr hx))
      fun x hx => hnan x (hperm.mem_iff.mpr hx),
    represented_of_firstSeen hw hv hperm.symm.subset hunique hnan, ?_⟩
  have hcomm : ∀ x y, x ∈ seen → y ∈ seen → x.same y = y.same x := fun x y hx hy =>
    Bson.same_comm (hunique x hx) (hunique y hy)
  by_cases htrans : ∀ x y z, x ∈ seen → y ∈ seen → z ∈ seen →
      x.same y = true → y.same z = true → x.same z = true
  · exact .inl (length_distinctValues_of_perm hcomm htrans hperm fun x hx => hx)
  · push Not at htrans
    obtain ⟨x, y, z, hx, hy, hz, hxy, hyz, hxz⟩ := htrans
    have hyx : y.same x = true := by rwa [hcomm y x hy hx]
    exact .inr ⟨x, hx, y, hy, z, hz, Bson.rounded_of_not_same hxy hyz hxz,
      distinctValues_of_not_same hyx hxy hyz (Bool.not_eq_true _ ▸ hxz)⟩

end

/-- A document with a number, to be stored under an identifier of its own. -/
def numbered (n : UInt8) (v : Bson) : Uuid × Bson := (roomId n, .document [("n", v)])

theorem distinct_of_reordered_numbered :
    let one := Bson.double (.ofInt _ 1)
    let batches := [[numbered 1 (.int32 1), numbered 2 (.string "A")], [numbered 3 one]]
    let others := [[numbered 3 one, numbered 1 (.int32 1), numbered 2 (.string "A")]]
    empty.Reordered "counts" batches others ∧
      (empty.insertEach "counts" batches).matching "counts" .empty =
        .ok (batches.flatten.map Prod.snd) ∧
      (∀ v ∈ (batches.flatten.map Prod.snd).flatMap (valuesAt "n"), v.NaNFree) ∧
      (empty.insertEach "counts" batches).distinct "counts" "n" .empty =
        .ok [.int32 1, .string "A"] ∧
      (empty.insertEach "counts" others).distinct "counts" "n" .empty = .ok [one, .string "A"] ∧
      Represented [.int32 1, .string "A"] [one, .string "A"] ∧
      Represented [one, .string "A"] [.int32 1, .string "A"] := by
  intro one batches others
  have hreordered : empty.Reordered "counts" batches others := by
    refine ⟨List.perm_append_comm, by decide, ?_⟩
    simp [batches, numbered, documents, held, Holdings.empty, empty, get?, Keyed.get?, Bson.Unique,
      Bson.UniqueFields, one]
  obtain ⟨selected, vs, ws, hselected, hvs, hws, hrelated⟩ :=
    distinct_of_reordered (q := .empty) (by simp [Query.empty])
      (show Patterns.compile [] = .ok .empty from rfl) hreordered "n"
  have hall : (empty.insertEach "counts" batches).matching "counts" .empty =
      .ok (batches.flatten.map Prod.snd) := rfl
  have hfound : (batches.flatten.map Prod.snd).flatMap (valuesAt "n") =
      [.int32 1, .string "A", one] := rfl
  have hnan : ∀ v ∈ (batches.flatten.map Prod.snd).flatMap (valuesAt "n"), v.NaNFree := by
    rw [hfound]
    simp [Bson.NaNFree, Bson.leaves, one, Binary.isNaN_ofInt]
  have hone := Binary.same_self_iff.mpr (Binary.isNaN_ofInt .double 1)
  have hfirst : (empty.insertEach "counts" batches).distinct "counts" "n" .empty =
      .ok [.int32 1, .string "A"] := by
    show Except.ok (distinctValues [.int32 1, .string "A", one]) = _
    simp [distinctValues, Bson.same, one, hone]
  have hlast : (empty.insertEach "counts" others).distinct "counts" "n" .empty =
      .ok [one, .string "A"] := by
    show Except.ok (distinctValues [one, .int32 1, .string "A"]) = _
    simp [distinctValues, Bson.same, one, hone]
  rw [hall, Except.ok.injEq] at hselected
  rw [hfirst, Except.ok.injEq] at hvs
  rw [hlast, Except.ok.injEq] at hws
  subst hselected hvs hws
  obtain ⟨hforth, hback, -⟩ := hrelated hnan
  exact ⟨hreordered, hall, hnan, hfirst, hlast, hforth, hback⟩

/-- The order of documents may change how many distinct values there are. -/
theorem distinct_not_orderFree :
    ¬ ∀ (m : Memory) (collection path : String) (batches others : List Entries) (q : Query)
      (ps : Patterns), (∀ c ∈ q.criteria, c.WellFormed) → Patterns.compile q.criteria = .ok ps →
        m.Reordered collection batches others →
          ∃ vs ws, (m.insertEach collection batches).distinct collection path q = .ok vs ∧
            (m.insertEach collection others).distinct collection path q = .ok ws ∧
            vs.length = ws.length := by
  intro h
  let low := Bson.int64 9007199254740992
  let high := Bson.int64 9007199254740993
  let wide := Bson.double (.ofInt _ 9007199254740992)
  obtain ⟨vs, ws, hvs, hws, hlength⟩ := h empty "counts" "n"
    [[numbered 1 low, numbered 2 high], [numbered 3 wide]]
    [[numbered 3 wide, numbered 1 low, numbered 2 high]] .empty .empty (by simp [Query.empty]) rfl
    ⟨List.perm_append_comm, by decide, by
      simp [numbered, documents, held, Holdings.empty, empty, get?, Keyed.get?, Bson.Unique,
        Bson.UniqueFields, low, high, wide]⟩
  have hvs' : Except.ok (distinctValues [low, high, wide]) = Except.ok vs := hvs
  have hws' : Except.ok (distinctValues [wide, low, high]) = Except.ok ws := hws
  obtain ⟨hapart, hrounded⟩ := distinctValues_of_not_same (x := low) (y := wide) (z := high)
    (by decide +kernel) (by decide +kernel) (by decide +kernel) (by decide +kernel)
  rw [hapart, Except.ok.injEq] at hvs'
  rw [hrounded, Except.ok.injEq] at hws'
  rw [← hvs', ← hws'] at hlength
  exact absurd hlength (by decide)

end Memory
end Sift
