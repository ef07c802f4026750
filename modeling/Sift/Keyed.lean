/-!
Lists whose members have keys.

`put` is the one way in which such a list grows: a member whose key is already there takes the
place of the old one, and a new key goes to the end.  So each key occurs once, in the order in
which the keys first came.
-/

namespace Sift
namespace Keyed

variable {α κ : Type} [DecidableEq κ]

/-- Puts a member into a list, in the place of the first one with its key or at the end. -/
def put (key : α → κ) (x : α) : List α → List α
  | [] => [x]
  | y :: ys => if key y = key x then x :: ys else y :: put key x ys

/-- The first member with a key. -/
def get? (key : α → κ) (k : κ) (xs : List α) : Option α :=
  xs.find? fun x => key x = k

theorem get?_put_self (key : α → κ) (x : α) (xs : List α) :
    get? key (key x) (put key x xs) = some x := by
  induction xs with
  | nil => simp [put, get?]
  | cons y ys ih =>
    by_cases h : key y = key x
    · simp [put, get?, h]
    · simpa [put, get?, h] using ih

theorem get?_put_of_ne (key : α → κ) {x : α} {k : κ} (h : key x ≠ k) (xs : List α) :
    get? key k (put key x xs) = get? key k xs := by
  induction xs with
  | nil => simp [put, get?, h]
  | cons y ys ih =>
    by_cases hy : key y = key x
    · simp [put, get?, hy, h]
    · by_cases hk : key y = k
      · subst hk
        simp [put, get?, hy]
      · simpa [put, get?, hy, hk] using ih

/-- A put changes the keys only by a new one at the end. -/
theorem map_put (key : α → κ) (x : α) (xs : List α) :
    (put key x xs).map key =
      if key x ∈ xs.map key then xs.map key else xs.map key ++ [key x] := by
  induction xs with
  | nil => simp [put]
  | cons y ys ih =>
    by_cases h : key y = key x
    · simp [put, h]
    · have h' : key x ≠ key y := fun e => h e.symm
      simp only [put, h, if_false, List.map_cons, ih, List.mem_cons, h', false_or]
      split <;> simp

theorem nodup_put (key : α → κ) (x : α) {xs : List α} (h : (xs.map key).Nodup) :
    ((put key x xs).map key).Nodup := by
  rw [map_put]
  split
  · exact h
  · rename_i hx
    rw [List.nodup_append]
    refine ⟨h, by simp, ?_⟩
    intro a ha b hb e
    rw [List.mem_singleton] at hb
    exact hx (hb ▸ e ▸ ha)

theorem mem_of_get? (key : α → κ) {x : α} {k : κ} {xs : List α} (h : get? key k xs = some x) :
    x ∈ xs ∧ key x = k :=
  ⟨List.mem_of_find?_eq_some h,
    of_decide_eq_true (List.find?_some (p := fun x => decide (key x = k)) h)⟩

/-- A put brings in one member and no other. -/
theorem mem_put {key : α → κ} {x y : α} {xs : List α} (h : y ∈ put key x xs) :
    y = x ∨ y ∈ xs := by
  induction xs with
  | nil => exact .inl (List.mem_singleton.mp h)
  | cons z xs ih =>
    unfold put at h
    split at h
    · exact (List.mem_cons.mp h).imp_right (List.mem_cons_of_mem z)
    · rcases List.mem_cons.mp h with rfl | h
      · exact .inr List.mem_cons_self
      · exact (ih h).imp_right (List.mem_cons_of_mem z)

/-- Where no key stands twice, each member is found under its key. -/
theorem get?_of_mem (key : α → κ) {x : α} {xs : List α} (h : (xs.map key).Nodup) (hx : x ∈ xs) :
    get? key (key x) xs = some x := by
  induction xs with
  | nil => cases hx
  | cons y ys ih =>
    rw [List.map_cons, List.nodup_cons] at h
    rcases List.mem_cons.mp hx with rfl | hx
    · simp [get?]
    · have hne : key y ≠ key x := fun e => h.1 (e ▸ List.mem_map_of_mem hx)
      simpa [get?, hne] using ih h.2 hx

/-- Where no key stands twice, a put replaces the one member with its key or adds a last member. -/
theorem put_eq (key : α → κ) (x : α) {xs : List α} (h : (xs.map key).Nodup) :
    put key x xs =
      if key x ∈ xs.map key then xs.map fun y => if key y = key x then x else y
      else xs ++ [x] := by
  induction xs with
  | nil => simp [put]
  | cons y ys ih =>
    rw [List.map_cons, List.nodup_cons] at h
    by_cases hy : key y = key x
    · have hid : ∀ z ∈ ys, (if key z = key x then x else z) = z := by
        intro z hz
        have hne : key z ≠ key x := fun e => h.1 (hy ▸ e ▸ List.mem_map_of_mem hz)
        rw [if_neg hne]
      simp [put, hy, List.map_congr_left hid]
    · have hx : key x ≠ key y := fun e => hy e.symm
      simp only [put, hy, if_false, ih h.2, List.map_cons, List.mem_cons, hx, false_or]
      split <;> rfl

/-- Where no key stands twice, a put changes the list at the place of the key. -/
theorem put_eq_set (key : α → κ) {x y : α} {xs : List α} {i : Nat} (h : (xs.map key).Nodup)
    (hy : xs[i]? = some y) (hkey : key y = key x) : put key x xs = xs.set i x := by
  induction xs generalizing i with
  | nil => cases hy
  | cons z xs ih =>
    rw [List.map_cons, List.nodup_cons] at h
    cases i with
    | zero =>
      obtain rfl : z = y := by simpa using hy
      simp [put, hkey]
    | succ i =>
      have hmem : y ∈ xs := List.mem_of_getElem? hy
      have hne : key z ≠ key x := fun e => h.1 (e ▸ hkey ▸ List.mem_map_of_mem hmem)
      simp only [put, if_neg hne, List.set_cons_succ, ih h.2 hy]

/-- Where no key stands twice, a put leaves one member with its key. -/
theorem filter_put (key : α → κ) (x : α) {xs : List α} (h : (xs.map key).Nodup) :
    (put key x xs).filter (fun y => key y = key x) = [x] := by
  induction xs with
  | nil => simp [put]
  | cons y ys ih =>
    rw [List.map_cons, List.nodup_cons] at h
    by_cases hy : key y = key x
    · have hrest : ys.filter (fun z => key z = key x) = [] := by
        rw [List.filter_eq_nil_iff]
        intro z hz e
        rw [decide_eq_true_eq, ← hy] at e
        exact h.1 (e ▸ List.mem_map_of_mem hz)
      simp [put, hy, hrest]
    · simpa [put, hy] using ih h.2

end Keyed
end Sift
