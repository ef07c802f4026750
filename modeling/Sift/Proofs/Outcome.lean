import Mathlib.Data.List.Forall2

/-!
# Computations that may fail

A list is worked off member by member, and the first failure ends it.  `mapM_eq_ok_iff` and
`mapM_eq_error_iff` say so of `List.mapM`: it succeeds if every member does, and otherwise it fails
as the first failing member does.
-/

namespace Sift

variable {α β ε : Type}

theorem isOk_eq_true_iff {x : Except ε α} : x.isOk = true ↔ ∃ a, x = .ok a := by
  cases x <;> simp [Except.isOk, Except.toBool]

theorem isOk_eq_false_iff {x : Except ε α} : x.isOk = false ↔ ∃ e, x = .error e := by
  cases x <;> simp [Except.isOk, Except.toBool]

/-- A sequence succeeds with what its second step makes of the result of the first. -/
theorem bind_eq_ok_iff {x : Except ε α} {f : α → Except ε β} {b : β} :
    x.bind f = .ok b ↔ ∃ a, x = .ok a ∧ f a = .ok b := by
  cases x with
  | error e => simp [Except.bind]
  | ok a => simp [Except.bind]

/-- A check in front of a result. -/
theorem check_eq_ok_iff {x : Except ε Unit} {a b : α} :
    (x.bind fun _ => .ok a) = .ok b ↔ x = .ok () ∧ b = a := by
  cases x <;> simp [Except.bind, eq_comm]

theorem bind_eq_error_iff {x : Except ε α} {f : α → Except ε β} {e : ε} :
    x.bind f = .error e ↔ x = .error e ∨ ∃ a, x = .ok a ∧ f a = .error e := by
  cases x with
  | error e' => simp [Except.bind]
  | ok a => simp [Except.bind]

theorem map_eq_ok_iff {x : Except ε α} {f : α → β} {b : β} :
    x.map f = .ok b ↔ ∃ a, x = .ok a ∧ f a = b := by
  cases x with
  | error e => simp [Except.map]
  | ok a => simp [Except.map]

theorem map_eq_error_iff {x : Except ε α} {f : α → β} {e : ε} :
    x.map f = .error e ↔ x = .error e := by
  cases x <;> simp [Except.map]

theorem mapError_eq_ok_iff {ε' : Type} {x : Except ε α} {f : ε → ε'} {a : α} :
    x.mapError f = .ok a ↔ x = .ok a := by
  cases x <;> simp [Except.mapError]

theorem mapError_eq_error_iff {ε' : Type} {x : Except ε α} {f : ε → ε'} {e : ε'} :
    x.mapError f = .error e ↔ ∃ cause, x = .error cause ∧ f cause = e := by
  cases x <;> simp [Except.mapError]

/-- The members before the first failing one succeed, and that one fails with `e`. -/
def FirstFailure (f : α → Except ε β) (xs : List α) (e : ε) : Prop :=
  ∃ before x after, xs = before ++ x :: after ∧ (∀ y ∈ before, ∃ b, f y = .ok b) ∧ f x = .error e

theorem FirstFailure.cons_ok {f : α → Except ε β} {x : α} {b : β} (h : f x = .ok b)
    {xs : List α} {e : ε} : FirstFailure f (x :: xs) e ↔ FirstFailure f xs e := by
  constructor
  · rintro ⟨before, y, after, hxs, hbefore, hy⟩
    cases before with
    | nil =>
      rw [List.nil_append, List.cons.injEq] at hxs
      rw [← hxs.1, h] at hy
      cases hy
    | cons z before =>
      rw [List.cons_append, List.cons.injEq] at hxs
      exact ⟨before, y, after, hxs.2, fun w hw => hbefore w (List.mem_cons_of_mem z hw), hy⟩
  · rintro ⟨before, y, after, rfl, hbefore, hy⟩
    refine ⟨x :: before, y, after, rfl, fun w hw => ?_, hy⟩
    rcases List.mem_cons.mp hw with rfl | hw
    · exact ⟨b, h⟩
    · exact hbefore w hw

theorem FirstFailure.cons_error {f : α → Except ε β} {x : α} {e' : ε} (h : f x = .error e')
    {xs : List α} {e : ε} : FirstFailure f (x :: xs) e ↔ e' = e := by
  constructor
  · rintro ⟨before, y, after, hxs, hbefore, hy⟩
    cases before with
    | nil =>
      rw [List.nil_append, List.cons.injEq] at hxs
      rw [← hxs.1, h] at hy
      exact Except.error.inj hy
    | cons z before =>
      rw [List.cons_append, List.cons.injEq] at hxs
      obtain ⟨b, hb⟩ := hbefore z (by simp)
      rw [← hxs.1, h] at hb
      cases hb
  · rintro rfl
    exact ⟨[], x, xs, rfl, by simp, h⟩

theorem exists_firstFailure_iff {f : α → Except ε β} {xs : List α} :
    (∃ e, FirstFailure f xs e) ↔ ∃ x ∈ xs, ∃ e, f x = .error e := by
  induction xs with
  | nil => simp [FirstFailure]
  | cons x xs ih =>
    cases hx : f x with
    | error e =>
      constructor
      · intro _
        exact ⟨x, List.mem_cons_self, e, hx⟩
      · intro _
        exact ⟨e, (FirstFailure.cons_error hx).mpr rfl⟩
    | ok b => simp [FirstFailure.cons_ok hx, ih, hx]

theorem mapM_eq_ok_iff {f : α → Except ε β} {xs : List α} {ys : List β} :
    xs.mapM f = .ok ys ↔ List.Forall₂ (fun x y => f x = .ok y) xs ys := by
  induction xs generalizing ys with
  | nil =>
    rw [List.mapM_nil, List.forall₂_nil_left_iff]
    exact ⟨fun h => (Except.ok.inj h).symm, fun h => h ▸ rfl⟩
  | cons x xs ih =>
    rw [List.mapM_cons, List.forall₂_cons_left_iff]
    constructor
    · intro h
      obtain ⟨y, hy, h⟩ := bind_eq_ok_iff.mp h
      obtain ⟨rest, hrest, h⟩ := bind_eq_ok_iff.mp h
      exact ⟨y, rest, hy, ih.mp hrest, (Except.ok.inj h).symm⟩
    · rintro ⟨y, rest, hy, hrest, rfl⟩
      exact bind_eq_ok_iff.mpr ⟨y, hy, bind_eq_ok_iff.mpr ⟨rest, ih.mpr hrest, rfl⟩⟩

theorem mapM_eq_some_iff {f : α → Option β} {xs : List α} {ys : List β} :
    xs.mapM f = some ys ↔ List.Forall₂ (fun x y => f x = some y) xs ys := by
  induction xs generalizing ys with
  | nil => simp [eq_comm]
  | cons x xs ih =>
    rw [List.mapM_cons, List.forall₂_cons_left_iff]
    simp only [bind, pure, Option.bind_eq_some_iff, Option.some.injEq, ih]
    constructor
    · rintro ⟨y, hy, rest, hrest, rfl⟩
      exact ⟨y, rest, hy, hrest, rfl⟩
    · rintro ⟨y, rest, hy, hrest, rfl⟩
      exact ⟨y, hy, rest, hrest, rfl⟩

/-- Where each step succeeds by its member alone, the results are those of a map. -/
theorem mapM_eq_ok_map_iff {f : α → Except ε β} {P : α → Prop} {g : α → β}
    (h : ∀ x y, f x = .ok y ↔ P x ∧ y = g x) {xs : List α} {ys : List β} :
    xs.mapM f = .ok ys ↔ (∀ x ∈ xs, P x) ∧ ys = xs.map g := by
  simp only [mapM_eq_ok_iff, h, List.forall₂_and_left, eq_comm (b := g _)]
  rw [← List.forall₂_map_left_iff, List.forall₂_eq_eq_eq, eq_comm]

theorem exists_mapM_iff {f : α → Except ε β} {xs : List α} :
    (∃ ys, xs.mapM f = .ok ys) ↔ ∀ x ∈ xs, ∃ y, f x = .ok y := by
  simp only [mapM_eq_ok_iff]
  induction xs with
  | nil => simp
  | cons x xs ih => simp [List.forall₂_cons_left_iff, ← ih]

/-- Each result comes from a member. -/
theorem exists_of_mem_mapM {f : α → Except ε β} {xs : List α} {ys : List β}
    (h : xs.mapM f = .ok ys) {y : β} (hy : y ∈ ys) : ∃ x ∈ xs, f x = .ok y := by
  have hall := mapM_eq_ok_iff.mp h
  induction hall with
  | nil => cases hy
  | cons hx hrest ih =>
    rcases List.mem_cons.mp hy with rfl | hy
    · exact ⟨_, List.mem_cons_self, hx⟩
    · obtain ⟨x, hmem, hxy⟩ := ih (mapM_eq_ok_iff.mpr hrest) hy
      exact ⟨x, List.mem_cons_of_mem _ hmem, hxy⟩

theorem mapM_eq_error_iff {f : α → Except ε β} {xs : List α} {e : ε} :
    xs.mapM f = .error e ↔ FirstFailure f xs e := by
  induction xs with
  | nil => simp [FirstFailure, pure, Except.pure]
  | cons x xs ih =>
    rw [List.mapM_cons]
    cases hx : f x with
    | error e' =>
      rw [FirstFailure.cons_error hx]
      simp [bind, Except.bind]
    | ok y =>
      rw [FirstFailure.cons_ok hx, ← ih]
      cases xs.mapM f <;> simp [bind, Except.bind, pure, Except.pure]

/-- A fold succeeds with the plain fold of its results if each step succeeds by its member alone. -/
theorem foldlM_eq_ok_iff {σ : Type} {f : σ → α → Except ε σ} {P : α → Prop} {g : σ → α → σ}
    (h : ∀ s x s', f s x = .ok s' ↔ P x ∧ s' = g s x) {xs : List α} {s s' : σ} :
    xs.foldlM f s = .ok s' ↔ (∀ x ∈ xs, P x) ∧ s' = xs.foldl g s := by
  induction xs generalizing s with
  | nil => simp [pure, Except.pure, eq_comm]
  | cons x xs ih =>
    rw [List.foldlM_cons, List.forall_mem_cons, List.foldl_cons]
    constructor
    · intro hfold
      obtain ⟨t, ht, hrest⟩ := bind_eq_ok_iff.mp hfold
      obtain ⟨hx, rfl⟩ := (h s x t).mp ht
      obtain ⟨hxs, hs'⟩ := ih.mp hrest
      exact ⟨⟨hx, hxs⟩, hs'⟩
    · rintro ⟨⟨hx, hxs⟩, hs'⟩
      exact bind_eq_ok_iff.mpr ⟨_, (h s x _).mpr ⟨hx, rfl⟩, ih.mpr ⟨hxs, hs'⟩⟩

end Sift
