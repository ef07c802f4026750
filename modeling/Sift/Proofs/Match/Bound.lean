import Sift.Proofs.Match.Range
import Sift.Proofs.Number.Rounding

/-!
# Bounds that are moved

A lower bound gives way to a smaller one and an upper bound to a larger one (`tighter_finds_less`).
The order of values is not transitive across integers and doubles, so this is not a matter of three
values in a row.  Two bounds of one scalar type are compared in one way, and any value is compared
with both of them in one way, in which the smaller bound is not above the larger one either
(`lowered_of_scalarType`): an integer bound may be rounded, but both are, and rounding keeps their
order.
-/

namespace Sift

/-- A comparison that is met in one way is met in every way further up. -/
def Rising (allowed : Ordering → Bool) : Prop :=
  (allowed .lt = true → allowed .eq = true) ∧ (allowed .eq = true → allowed .gt = true)

/-- A comparison that is met in one way is met in every way further down. -/
def Falling (allowed : Ordering → Bool) : Prop :=
  (allowed .gt = true → allowed .eq = true) ∧ (allowed .eq = true → allowed .lt = true)

instance (allowed : Ordering → Bool) : Decidable (Rising allowed) :=
  inferInstanceAs (Decidable (_ ∧ _))

instance (allowed : Ordering → Bool) : Decidable (Falling allowed) :=
  inferInstanceAs (Decidable (_ ∧ _))

namespace Bson

/-- The value is ordered with neither of two bounds, or with both of them along one order, in which
the first bound is not above the second. -/
inductive Lowered (v low high : Bson) : Prop where
  | unordered (hlow : v.compare? low = none) (hhigh : v.compare? high = none)
  | ordered {α : Type} (cmp : α → α → Ordering) [Std.TransCmp cmp] {x y z : α}
      (hlow : v.compare? low = some (cmp x y)) (hhigh : v.compare? high = some (cmp x z))
      (hle : (cmp y z).isLE = true)

section

variable {v low high : Bson} {allowed : Ordering → Bool}

theorem Lowered.any_low (h : Lowered v low high) (hrising : Rising allowed)
    (hany : (v.compare? high).any allowed = true) : (v.compare? low).any allowed = true := by
  cases h with
  | unordered hlow hhigh =>
    rw [hhigh] at hany
    cases hany
  | @ordered _ cmp _ x y z hlow hhigh hle =>
    rw [hhigh, Option.any_some] at hany
    rw [hlow, Option.any_some]
    have hup : cmp x z = .gt → cmp x y = .gt := fun hgt =>
      Std.TransCmp.gt_of_gt_of_isGE hgt (Std.OrientedCmp.isGE_iff_isLE.mpr hle)
    have hdown : cmp x y = .lt → cmp x z = .lt := fun hlt => Std.TransCmp.lt_of_lt_of_isLE hlt hle
    obtain ⟨hlt, heq⟩ := hrising
    cases hxz : cmp x z with
    | gt =>
      rw [hup hxz]
      rwa [hxz] at hany
    | eq =>
      rw [hxz] at hany
      cases hxy : cmp x y with
      | lt => simp [hdown hxy] at hxz
      | eq => exact hany
      | gt => exact heq hany
    | lt =>
      rw [hxz] at hany
      cases cmp x y with
      | lt => exact hany
      | eq => exact hlt hany
      | gt => exact heq (hlt hany)

/-- What a falling comparison does not allow is allowed by a rising one. -/
theorem Lowered.any_high (h : Lowered v low high) (hfalling : Falling allowed)
    (hany : (v.compare? low).any allowed = true) : (v.compare? high).any allowed = true := by
  have hrising : Rising fun o => !allowed o := by
    unfold Falling at hfalling
    unfold Rising
    cases hlt : allowed .lt <;> cases heq : allowed .eq <;> cases hgt : allowed .gt <;> simp_all
  have hlow := h.any_low hrising
  cases h with
  | unordered hnone =>
    rw [hnone] at hany
    cases hany
  | @ordered _ cmp _ x y z hsome hhigh =>
    rw [hsome, hhigh, Option.any_some, Option.any_some] at hlow
    rw [hsome, Option.any_some] at hany
    rw [hhigh, Option.any_some]
    by_contra hnot
    simp [hany, hnot] at hlow

theorem orderedAs_low (h : ∀ c, Lowered c low high) (hrising : Rising allowed)
    (hordered : v.orderedAs high allowed = true) : v.orderedAs low allowed = true := by
  obtain ⟨c, hc, hany⟩ := List.any_eq_true.mp hordered
  exact List.any_eq_true.mpr ⟨c, hc, (h c).any_low hrising hany⟩

theorem orderedAs_high (h : ∀ c, Lowered c low high) (hfalling : Falling allowed)
    (hordered : v.orderedAs low allowed = true) : v.orderedAs high allowed = true := by
  obtain ⟨c, hc, hany⟩ := List.any_eq_true.mp hordered
  exact List.any_eq_true.mpr ⟨c, hc, (h c).any_high hfalling hany⟩

end

/-! ## Bounds of one scalar type -/

/-- The order of a value and a double, where the value is a number. -/
def compareDouble? (v : Bson) (y : Double) : Option Ordering :=
  match v.asDouble? with
  | some x => x.compare? y
  | none => none

theorem compare?_double_right (v : Bson) (y : Double) :
    v.compare? (double y) = v.compareDouble? y := by
  unfold compareDouble?
  cases v <;> simp [compare?, asInt?, asDouble?]

/-- A value is compared with an integer exactly if it is one, and else as a double. -/
theorem compare?_of_asInt? {bound : Bson} {k : Int} (hk : bound.asInt? = some k) (v : Bson) :
    v.compare? bound =
      match v.asInt? with
      | some n => some (compare n k)
      | none => v.compareDouble? (.ofInt _ k) := by
  unfold compareDouble?
  cases bound with
  | int32 m | int64 m =>
    obtain rfl : m.toInt = k := Option.some.inj hk
    cases v <;> simp [compare?, asInt?, asDouble?]
  | _ => cases hk

/-- Bounds that a value is compared with as doubles. -/
theorem lowered_of_ranks {v low high : Bson} {p q : Double} (hp : p.isNaN = false)
    (hq : q.isNaN = false) (hle : p.rank ≤ q.rank) (hlow : v.compare? low = v.compareDouble? p)
    (hhigh : v.compare? high = v.compareDouble? q) : Lowered v low high := by
  unfold compareDouble? at hlow hhigh
  cases hx : v.asDouble? with
  | none =>
    rw [hx] at hlow hhigh
    exact .unordered hlow hhigh
  | some x =>
    simp only [hx, Binary.compare?, hp, hq, Bool.or_false] at hlow hhigh
    cases hnan : x.isNaN with
    | true =>
      rw [hnan, if_pos rfl] at hlow hhigh
      exact .unordered hlow hhigh
    | false =>
      rw [hnan, if_neg Bool.false_ne_true] at hlow hhigh
      exact .ordered compare hlow hhigh (Std.isLE_compare.mpr hle)

theorem lowered_of_ints {low high : Bson} {i j : Int} (hlow : low.asInt? = some i)
    (hhigh : high.asInt? = some j) (hij : i ≤ j) (v : Bson) : Lowered v low high := by
  have hlow' := compare?_of_asInt? hlow v
  have hhigh' := compare?_of_asInt? hhigh v
  cases hn : v.asInt? with
  | some n =>
    rw [hn] at hlow' hhigh'
    exact .ordered compare hlow' hhigh' (Std.isLE_compare.mpr hij)
  | none =>
    rw [hn] at hlow' hhigh'
    exact lowered_of_ranks (Binary.isNaN_ofInt _ i) (Binary.isNaN_ofInt _ j)
      (Binary.rank_ofInt_mono _ hij) hlow' hhigh'

theorem lowered_of_doubles {p q : Double} (hle : (p.compare? q).any Ordering.isLE = true)
    (v : Bson) : Lowered v (double p) (double q) := by
  unfold Binary.compare? at hle
  cases hp : p.isNaN with
  | true => simp [hp] at hle
  | false =>
    cases hq : q.isNaN with
    | true => simp [hp, hq] at hle
    | false =>
      simp only [hp, hq, Bool.or_self, Bool.false_eq_true, if_false, Option.any_some] at hle
      exact lowered_of_ranks hp hq (Std.isLE_compare.mp hle) (compare?_double_right v p)
        (compare?_double_right v q)

end Bson

open Bson in
/-- Every value is compared in one way with two bounds of one scalar type. -/
theorem TypedValue.lowered_of_scalarType {a b : TypedValue} (htype : a.scalarType = b.scalarType)
    (hle : (a.toBson.compare? b.toBson).any Ordering.isLE = true) (v : Bson) :
    Lowered v a.toBson b.toBson := by
  cases a with
  | string s =>
    cases b with
    | string t =>
      cases v with
      | string u => exact .ordered compare rfl rfl hle
      | _ => exact .unordered rfl rfl
    | _ => cases htype
  | int32 m =>
    cases b with
    | int32 n => exact lowered_of_ints rfl rfl (Std.isLE_compare.mp hle) v
    | _ => cases htype
  | int64 m =>
    cases b with
    | int64 n => exact lowered_of_ints rfl rfl (Std.isLE_compare.mp hle) v
    | _ => cases htype
  | float x =>
    cases b with
    | float y => exact lowered_of_doubles hle v
    | _ => cases htype
  | double x =>
    cases b with
    | double y => exact lowered_of_doubles hle v
    | _ => cases htype
  | boolean p =>
    cases b with
    | boolean q =>
      cases v with
      | boolean r => exact .ordered compare rfl rfl hle
      | _ => exact .unordered rfl rfl
    | _ => cases htype
  | timestamp s =>
    cases b with
    | timestamp t =>
      cases v with
      | datetime u => exact .ordered (@compare Int _) rfl rfl hle
      | _ => exact .unordered rfl rfl
    | _ => cases htype
  | uuid s =>
    cases b with
    | uuid t =>
      cases v with
      | binary subtype bytes =>
        exact .ordered comparePair (x := (subtype.toByte, bytes)) (y := (4, s.bytes))
          (z := (4, t.bytes)) rfl rfl hle
      | _ => exact .unordered rfl rfl
    | _ => cases htype

/-! ## Criteria with moved bounds -/

theorem forall_of_allM {α ε : Type} {f : α → Except ε Bool} {xs : List α}
    (h : xs.allM f = .ok true) : ∀ x ∈ xs, f x = .ok true := by
  induction xs with
  | nil => simp
  | cons x xs ih =>
    cases hx : f x with
    | error e => simp [List.allM, hx, bind, Except.bind] at h
    | ok b =>
      cases b with
      | false => simp [List.allM, hx, bind, Except.bind, pure, Except.pure] at h
      | true =>
        have hrest : xs.allM f = .ok true := by simpa [List.allM, hx, bind, Except.bind] using h
        exact List.forall_mem_cons.mpr ⟨hx, ih hrest⟩

namespace Criterion

/-- A criterion that holds has clauses that hold, each for itself. -/
theorem holds_clause {c : Criterion} {d : Document} (h : c.holds d = true) {op : Operator}
    {bound : Bson} (hmem : (op, bound) ∈ c.clauses) (hop : op ≠ .regex) :
    (single c.field op bound).holds d = true := by
  obtain ⟨ps, hps⟩ : ∃ ps : Patterns, ps.criterionHolds d c = .ok true := by
    unfold holds at h
    cases hcompile : Patterns.compile [c] with
    | error e => simp [hcompile, Except.bind, Except.toOption] at h
    | ok ps =>
      refine ⟨ps, ?_⟩
      cases hholds : ps.criterionHolds d c with
      | error e => simp [hcompile, hholds, Except.bind, Except.toOption] at h
      | ok b =>
        rw [hcompile, Except.bind, hholds] at h
        exact congrArg _ h
  have hclause := forall_of_allM hps (op, bound) hmem
  have hsingle := criterionHolds_single hop ps d c.field bound
  simp only [Patterns.criterionHolds, single, List.allM] at hsingle hclause
  rw [hclause] at hsingle
  exact (Except.ok.inj hsingle).symm

section

variable {op : Operator} {allowed : Ordering → Bool} {low high : Bson} {path : String}
  {d : Document} (hop : op.allowed? = some allowed) (h : ∀ v, Bson.Lowered v low high)

include hop h

theorem holds_low (hrising : Rising allowed) (hholds : (single path op high).holds d = true) :
    (single path op low).holds d = true := by
  rw [holds_of_allowed hop] at hholds ⊢
  cases hvalue : d.lookup path with
  | none =>
    rw [hvalue] at hholds
    cases hholds
  | some v =>
    rw [hvalue, Option.any_some] at hholds
    exact Bson.orderedAs_low h hrising hholds

theorem holds_high (hfalling : Falling allowed) (hholds : (single path op low).holds d = true) :
    (single path op high).holds d = true := by
  rw [holds_of_allowed hop] at hholds ⊢
  cases hvalue : d.lookup path with
  | none =>
    rw [hvalue] at hholds
    cases hholds
  | some v =>
    rw [hvalue, Option.any_some] at hholds
    exact Bson.orderedAs_high h hfalling hholds

end

end Criterion

/-- A lower bound that is raised and an upper bound that is lowered find no documents that were not
found before.  So nothing lies from one bound on and below a smaller one, except where the value is
an array, of which different elements may meet the two. -/
theorem tighter_finds_less {a b : TypedValue} (htype : a.scalarType = b.scalarType)
    (hle : (a.toBson.compare? b.toBson).any Ordering.isLE = true) (path : String) (d : Document) :
    ((Where.gt path b.toBson).holds d = true → (Where.gt path a.toBson).holds d = true) ∧
    ((Where.gte path b.toBson).holds d = true → (Where.gte path a.toBson).holds d = true) ∧
    ((Where.lt path a.toBson).holds d = true → (Where.lt path b.toBson).holds d = true) ∧
    ((Where.lte path a.toBson).holds d = true → (Where.lte path b.toBson).holds d = true) ∧
    ∀ c : Criterion, c.field = path → (.gte, b.toBson) ∈ c.clauses →
      (.lt, a.toBson) ∈ c.clauses → (∀ v, d.lookup path = some v → v.asArray? = none) →
        c.holds d = false := by
  have h := TypedValue.lowered_of_scalarType htype hle
  refine ⟨Criterion.holds_low rfl h (by decide), Criterion.holds_low rfl h (by decide),
    Criterion.holds_high rfl h (by decide), Criterion.holds_high rfl h (by decide), ?_⟩
  intro c hfield hgte hlt hplain
  by_contra hholds
  rw [Bool.not_eq_false] at hholds
  subst hfield
  have hlow := Criterion.holds_low rfl h (by decide)
    (Criterion.holds_clause hholds hgte (by decide))
  have hbelow := Criterion.holds_clause hholds hlt (by decide)
  cases hvalue : d.lookup c.field with
  | none =>
    have hrange : Criterion.single c.field .lt a.toBson ∈ Where.ranges c.field a.toBson :=
      List.mem_cons_self
    have hnot := Where.holds_ranges_of_missing hvalue hrange
    rw [hbelow] at hnot
    cases hnot
  | some v =>
    -- the value would be below the smaller bound and not below it
    rw [Criterion.holds_of_plain rfl hvalue (hplain v hvalue)] at hlow hbelow
    cases hcompare : v.compare? a.toBson with
    | none => simp [hcompare] at hlow
    | some o => cases o <;> simp [hcompare] at hlow hbelow

/-- Two neighbouring counts that are both rounded to the double they are compared with. -/
theorem tighter_finds_less_largeCounts :
    let low := TypedValue.int64 9007199254740992
    let high := TypedValue.int64 9007199254740993
    let room : Document := [("n", .double (.ofInt _ 9007199254740992))]
    let between := (Where.gte "n" high.toBson).and .lt low.toBson
    (low.scalarType = high.scalarType ∧
      (low.toBson.compare? high.toBson).any Ordering.isLE = true ∧
      (Where.gte "n" high.toBson).holds room = true) ∧
    (Where.gte "n" low.toBson).holds room = true ∧ between.holds room = false := by
  intro low high room between
  have htype : low.scalarType = high.scalarType := rfl
  have hle : (low.toBson.compare? high.toBson).any Ordering.isLE = true := by decide
  have hhigh : (Where.gte "n" high.toBson).holds room = true := by decide +kernel
  obtain ⟨-, hgte, -, -, hnone⟩ := tighter_finds_less htype hle "n" room
  refine ⟨⟨htype, hle, hhigh⟩, hgte hhigh, hnone between rfl ?_ ?_ fun v hv => ?_⟩
  · exact List.mem_cons_self
  · exact List.mem_cons_of_mem _ List.mem_cons_self
  · rw [← Option.some.inj hv]
    rfl

end Sift
