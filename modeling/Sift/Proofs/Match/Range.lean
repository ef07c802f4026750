import Sift.Proofs.Bson.Order
import Sift.Proofs.Match.Negation

/-!
# Ranges and equality

The value at a path stands to a bound in one of three ways or in none, and each comparison allows
some of the three (`allowed?`).  The middle one of them is equality wherever the bound is of a kind
that has an order, with one exception: binary values are ordered by the bytes of their subtypes, and
subtypes that differ may have the same byte (`lookalike`).  So the comparisons fit together
(`ranges_fit`): but for lookalikes `gte` is `gt` or `eq`, `lte` is `lt` or `eq`, and a value that is
no array meets one of `lt`, `eq` and `gt` if it is ordered with the bound.
-/

namespace Sift

/-- The ways of standing to a bound that a comparison allows. -/
def Operator.allowed? : Operator → Option (Ordering → Bool)
  | gt => some fun o => o == .gt
  | gte => some fun o => o != .lt
  | lt => some fun o => o == .lt
  | lte => some fun o => o != .gt
  | _ => none

namespace Bson

/-- The kinds of values that have an order.  Integers of any width and doubles are of one kind. -/
inductive RangeKind where
  | boolean
  | number
  | datetime
  | string
  | binary
  deriving DecidableEq

def rangeKind? : Bson → Option RangeKind
  | boolean _ => some .boolean
  | int32 _ => some .number
  | int64 _ => some .number
  | double _ => some .number
  | datetime _ => some .datetime
  | string _ => some .string
  | binary _ _ => some .binary
  | _ => none

def isNaN : Bson → Bool
  | double x => x.isNaN
  | _ => false

/-! ## When two values are ordered -/

theorem isSome_compare?_double {a b : Double} :
    (a.compare? b).isSome = true ↔ a.isNaN = false ∧ b.isNaN = false := by
  unfold Binary.compare?
  cases a.isNaN <;> cases b.isNaN <;> simp

/-- Two values are ordered if they are of one kind and neither is a NaN. -/
theorem isSome_compare?_iff {x y : Bson} :
    (x.compare? y).isSome = true ↔
      x.rangeKind?.isSome = true ∧ x.rangeKind? = y.rangeKind? ∧ x.isNaN = false ∧
        y.isNaN = false := by
  cases x <;> cases y <;>
    simp [compare?, rangeKind?, isNaN, asInt?, asDouble?, isSome_compare?_double,
      Binary.isNaN_ofInt]

theorem any_eq_of_compare? (a b : Double) : (a.compare? b).any (fun o => o == .eq) = a.same b := by
  rw [Bool.eq_iff_iff, Binary.same_iff_compare?]
  cases a.compare? b <;> simp

/-! ## Equality in the order -/

/-- The bytes are the same and the subtypes have the same byte, but are not the same. -/
def lookalike : Bson → Bson → Bool
  | binary s a, binary t b => s != t && s.toByte == t.toByte && a == b
  | _, _ => false

theorem compareBinary_beq_eq (s t : BinarySubtype) (a b : List UInt8) :
    (compareBinary s t a b == .eq) =
      ((s == t && a == b) || (s != t && s.toByte == t.toByte && a == b)) := by
  have heq : (compareBinary s t a b == .eq) = (s.toByte == t.toByte && a == b) := by
    rw [Bool.eq_iff_iff, beq_iff_eq, Bool.and_eq_true, beq_iff_eq, beq_iff_eq]
    simp only [compareBinary, Ordering.then_eq_eq, Std.LawfulEqCmp.compare_eq_iff_eq]
    constructor
    · rintro ⟨-, hst, hab⟩
      exact ⟨hst, hab⟩
    · rintro ⟨hst, rfl⟩
      exact ⟨rfl, hst, rfl⟩
  rw [heq]
  by_cases hst : s = t
  · simp [hst]
  · simp [beq_eq_false_iff_ne.mpr hst, bne]

/-- A value that is neither before nor after a bound is equal to it, or a lookalike of it. -/
theorem any_compare?_eq {bound : Bson} (h : bound.rangeKind?.isSome = true) (c : Bson) :
    ((c.compare? bound).any fun o => o == .eq) = (c.same bound || c.lookalike bound) := by
  cases bound with
  | boolean b => cases c <;> simp [same, lookalike, compare?, asInt?, asDouble?]
  | int32 n | int64 n =>
    cases c <;>
      simp [same, lookalike, compare?, asInt?, asDouble?, any_eq_of_compare?, Binary.same_comm]
  | double x =>
    cases c <;> simp [same, lookalike, compare?, asInt?, asDouble?, any_eq_of_compare?]
  | datetime n =>
    cases c <;> simp [same, lookalike, compare?, asInt?, asDouble?, ← Int64.toInt_inj]
  | string t => cases c <;> simp [same, lookalike, compare?, asInt?, asDouble?]
  | binary t b =>
    cases c <;> simp [same, lookalike, compare?, asInt?, asDouble?, compareBinary_beq_eq]
  | _ => cases h

theorem same_eq_false_of_lookalike {x y : Bson} (h : x.lookalike y = true) :
    x.same y = false := by
  cases x <;> cases y <;> simp_all [same, lookalike]

/-- Values with the subtypes that their bytes stand for are no lookalikes. -/
theorem lookalike_ofByte (s t : UInt8) (a b : List UInt8) :
    (binary (.ofByte s) a).lookalike (binary (.ofByte t) b) = false := by
  by_cases hst : s = t
  · simp [lookalike, hst]
  · simp [lookalike, BinarySubtype.toByte_ofByte, hst]

/-! ## Values and their elements -/

variable {v bound : Bson}

/-- Some candidate is a lookalike of the bound. -/
def looksLike (v bound : Bson) : Bool := v.candidates.any fun c => c.lookalike bound

theorem orderedAs_eq (h : bound.rangeKind?.isSome = true) (v : Bson) :
    v.orderedAs bound (fun o => o == .eq) = (v.equalsAny bound || v.looksLike bound) := by
  rw [Bool.eq_iff_iff]
  simp only [orderedAs, equalsAny, looksLike, any_compare?_eq h, List.any_eq_true,
    Bool.or_eq_true, and_or_left, exists_or]

/-- What is allowed by one of two comparisons is met by some candidate for one of them. -/
theorem orderedAs_or (v bound : Bson) (p q : Ordering → Bool) :
    v.orderedAs bound (fun o => p o || q o) = (v.orderedAs bound p || v.orderedAs bound q) := by
  have hor : ∀ c : Bson, (c.compare? bound).any (fun o => p o || q o) =
      ((c.compare? bound).any p || (c.compare? bound).any q) := by
    intro c
    cases c.compare? bound <;> rfl
  rw [Bool.eq_iff_iff]
  simp only [orderedAs, hor, List.any_eq_true, Bool.or_eq_true, and_or_left, exists_or]

/-- A value that is no array is its own only candidate. -/
theorem candidates_of_plain (h : v.asArray? = none) : v.candidates = [v] := by
  cases v <;> first | rfl | cases h

theorem orderedAs_of_plain (h : v.asArray? = none) (bound : Bson) (allowed : Ordering → Bool) :
    v.orderedAs bound allowed = (v.compare? bound).any allowed := by
  simp [orderedAs, candidates_of_plain h]

end Bson

/-! ## Comparisons at a path -/

namespace Criterion

variable {op : Operator} {allowed : Ordering → Bool} {bound : Bson}

/-- A comparison comes out for every document, whatever patterns are compiled. -/
theorem criterionHolds_single (hop : op ≠ .regex) (ps : Patterns) (d : Document) (path : String)
    (bound : Bson) :
    ps.criterionHolds d (single path op bound) = .ok ((single path op bound).holds d) := by
  have hclause : ∃ b, ∀ qs : Patterns, qs.clauseHoldsAt (d.lookup path) op bound = .ok b := by
    cases d.lookup path with
    | none => exact ⟨_, fun _ => rfl⟩
    | some v =>
      cases op with
      | regex => exact absurd rfl hop
      | _ => exact ⟨_, fun _ => rfl⟩
  obtain ⟨b, hb⟩ := hclause
  rw [holds_single hop, hb]
  simp only [Patterns.criterionHolds, single, List.allM, hb]
  cases b <;> rfl

theorem holds_of_allowed (hop : op.allowed? = some allowed) (path : String) (bound : Bson)
    (d : Document) :
    (single path op bound).holds d = (d.lookup path).any fun v => v.orderedAs bound allowed := by
  have hregex : op ≠ .regex := by
    rintro rfl
    cases hop
  rw [holds_single hregex]
  cases d.lookup path with
  | none => cases op <;> first | rfl | cases hop
  | some v =>
    cases op with
    | gt | gte | lt | lte =>
      rw [← Option.some.inj hop]
      rfl
    | _ => cases hop

/-- A comparison of a value that is no array asks how this value stands to the bound. -/
theorem holds_of_plain (hop : op.allowed? = some allowed) {path : String} {d : Document} {v : Bson}
    (hvalue : d.lookup path = some v) (hplain : v.asArray? = none) (bound : Bson) :
    (single path op bound).holds d = (v.compare? bound).any allowed := by
  rw [holds_of_allowed hop, hvalue, Option.any_some, Bson.orderedAs_of_plain hplain]

end Criterion

namespace Where

/-- The comparisons that ask for an order. -/
def ranges (path : String) (bound : Bson) : List Criterion :=
  [lt path bound, lte path bound, gt path bound, gte path bound]

/-- In how many of the three ways a document stands to a bound. -/
def waysMet (path : String) (bound : Bson) (d : Document) : Nat :=
  [lt path bound, eq path bound, gt path bound].countP fun c => c.holds d

/-- The value at the path is a lookalike of the bound, or has one in it. -/
def looksLikeAt (path : String) (bound : Bson) (d : Document) : Bool :=
  (d.lookup path).any fun v => v.looksLike bound

variable {path : String} {bound : Bson} {d : Document}

theorem holds_eq (path : String) (bound : Bson) (d : Document) :
    (eq path bound).holds d = (d.lookup path).any fun v => v.equalsAny bound := by
  rw [eq, Criterion.holds_single (by decide)]
  cases d.lookup path <;> rfl

theorem exists_of_mem_ranges {c : Criterion} (hc : c ∈ ranges path bound) :
    ∃ op allowed, c = .single path op bound ∧ op.allowed? = some allowed := by
  simp only [ranges, List.mem_cons, List.not_mem_nil, or_false] at hc
  rcases hc with rfl | rfl | rfl | rfl
  · exact ⟨.lt, _, rfl, rfl⟩
  · exact ⟨.lte, _, rfl, rfl⟩
  · exact ⟨.gt, _, rfl, rfl⟩
  · exact ⟨.gte, _, rfl, rfl⟩

theorem holds_ranges_of_missing (hvalue : d.lookup path = none) {c : Criterion}
    (hc : c ∈ ranges path bound) : c.holds d = false := by
  obtain ⟨op, allowed, rfl, hop⟩ := exists_of_mem_ranges hc
  rw [Criterion.holds_of_allowed hop, hvalue]
  rfl

/-- A comparison that allows the middle way besides what a strict one allows. -/
theorem holds_or_eq {op strict : Operator} {allowed strictly : Ordering → Bool}
    (hop : op.allowed? = some allowed) (hstrict : strict.allowed? = some strictly)
    (hor : ∀ o, allowed o = (strictly o || o == .eq)) (h : bound.rangeKind?.isSome = true)
    (path : String) (d : Document) :
    (Criterion.single path op bound).holds d =
      ((Criterion.single path strict bound).holds d || (eq path bound).holds d ||
        looksLikeAt path bound d) := by
  rw [holds_eq, Criterion.holds_of_allowed hop, Criterion.holds_of_allowed hstrict, funext hor]
  simp only [Bson.orderedAs_or, Bson.orderedAs_eq h, looksLikeAt]
  cases d.lookup path with
  | none => rfl
  | some v => simp only [Option.any_some, Bool.or_assoc]

section

variable {v : Bson} (hvalue : d.lookup path = some v) (hplain : v.asArray? = none)

include hvalue hplain

theorem holds_ranges_of_unordered (hnone : v.compare? bound = none) {c : Criterion}
    (hc : c ∈ ranges path bound) : c.holds d = false := by
  obtain ⟨op, allowed, rfl, hop⟩ := exists_of_mem_ranges hc
  rw [Criterion.holds_of_plain hop hvalue hplain, hnone]
  rfl

/-- A value that is no array stands to a bound in one way if the two are ordered, else in none.  A
lookalike of the bound is ordered with it, but is not equal to it. -/
theorem waysMet_of_plain (h : bound.rangeKind?.isSome = true) :
    waysMet path bound d =
      if (v.compare? bound).isSome && !v.lookalike bound then 1 else 0 := by
  have hlt : (lt path bound).holds d = (v.compare? bound).any fun o => o == .lt :=
    Criterion.holds_of_plain rfl hvalue hplain bound
  have hgt : (gt path bound).holds d = (v.compare? bound).any fun o => o == .gt :=
    Criterion.holds_of_plain rfl hvalue hplain bound
  have heq : (eq path bound).holds d = v.same bound := by
    rw [holds_eq, hvalue, Option.any_some, Bson.equalsAny, Bson.candidates_of_plain hplain]
    simp
  have hmiddle := Bson.any_compare?_eq h v
  simp only [waysMet, List.countP_cons, List.countP_nil, hlt, heq, hgt]
  cases hlook : v.lookalike bound with
  | true =>
    rw [Bson.same_eq_false_of_lookalike hlook]
    rw [hlook, Bool.or_true] at hmiddle
    cases hcompare : v.compare? bound with
    | none => rfl
    | some o =>
      rw [hcompare, Option.any_some, beq_iff_eq] at hmiddle
      rw [hmiddle]
      rfl
  | false =>
    rw [hlook, Bool.or_false] at hmiddle
    rw [← hmiddle]
    cases v.compare? bound with
    | none => rfl
    | some o => cases o <;> rfl

/-- A value and a bound that change places stand to each other the other way round. -/
theorem holds_swap {op turned : Operator} {allowed turnedAllowed : Ordering → Bool}
    (hop : op.allowed? = some allowed) (hturned : turned.allowed? = some turnedAllowed)
    (hswap : ∀ o, turnedAllowed o = allowed o.swap) (hbound : bound.asArray? = none) {e : Document}
    (he : e.lookup path = some bound) :
    (Criterion.single path op bound).holds d = (Criterion.single path turned v).holds e := by
  rw [Criterion.holds_of_plain hop hvalue hplain, Criterion.holds_of_plain hturned he hbound,
    ← Bson.compare?_swap bound v]
  cases bound.compare? v with
  | none => rfl
  | some o => exact (hswap o).symm

end

end Where

/-- What `gt` or `eq` matches `gte` matches, and what `lt` or `eq` matches `lte` matches, and without
lookalikes of the bound they match nothing else; values with the subtypes that their bytes stand for
are no lookalikes.  A value that is no array stands to a bound in one way at most, in one way if both
are of one kind, neither is a NaN and they are no lookalikes, in none if they are of two kinds or one
is a NaN, and in the opposite way if the two change places. -/
theorem ranges_fit (path : String) {bound : Bson} (h : bound.rangeKind?.isSome = true)
    (d : Document) :
    (∀ (ps : Patterns) (op : Operator), op ≠ .regex →
      ps.criterionHolds d (.single path op bound) =
        .ok ((Criterion.single path op bound).holds d)) ∧
    (((Where.gt path bound).holds d || (Where.eq path bound).holds d) = true →
      (Where.gte path bound).holds d = true) ∧
    (((Where.lt path bound).holds d || (Where.eq path bound).holds d) = true →
      (Where.lte path bound).holds d = true) ∧
    (Where.looksLikeAt path bound d = false →
      (Where.gte path bound).holds d =
        ((Where.gt path bound).holds d || (Where.eq path bound).holds d) ∧
      (Where.lte path bound).holds d =
        ((Where.lt path bound).holds d || (Where.eq path bound).holds d)) ∧
    (∀ s t a b, (Bson.binary (.ofByte s) a).lookalike (.binary (.ofByte t) b) = false) ∧
    (d.lookup path = none → ∀ c ∈ Where.ranges path bound, c.holds d = false) ∧
    ∀ v, d.lookup path = some v → v.asArray? = none →
      Where.waysMet path bound d ≤ 1 ∧
      (v.rangeKind? = bound.rangeKind? → v.isNaN = false → bound.isNaN = false →
        v.lookalike bound = false → Where.waysMet path bound d = 1) ∧
      (v.rangeKind? ≠ bound.rangeKind? ∨ v.isNaN = true ∨ bound.isNaN = true →
        ∀ c ∈ Where.ranges path bound, c.holds d = false) ∧
      ∀ e : Document, e.lookup path = some bound →
        (Where.lt path bound).holds d = (Where.gt path v).holds e ∧
        (Where.lte path bound).holds d = (Where.gte path v).holds e := by
  have hgte : (Where.gte path bound).holds d = ((Where.gt path bound).holds d ||
      (Where.eq path bound).holds d || Where.looksLikeAt path bound d) :=
    Where.holds_or_eq rfl rfl (by decide) h path d
  have hlte : (Where.lte path bound).holds d = ((Where.lt path bound).holds d ||
      (Where.eq path bound).holds d || Where.looksLikeAt path bound d) :=
    Where.holds_or_eq rfl rfl (by decide) h path d
  refine ⟨fun ps op hop => Criterion.criterionHolds_single hop ps d path bound,
    fun hmet => ?_, fun hmet => ?_, fun hnone => ⟨?_, ?_⟩,
    Bson.lookalike_ofByte,
    fun hnone c hc => Where.holds_ranges_of_missing hnone hc, ?_⟩
  · rw [hgte, hmet, Bool.true_or]
  · rw [hlte, hmet, Bool.true_or]
  · rw [hgte, hnone, Bool.or_false]
  · rw [hlte, hnone, Bool.or_false]
  intro v hvalue hplain
  have hways := Where.waysMet_of_plain hvalue hplain h
  refine ⟨?_, fun hkind hv hbound hlook => ?_, fun hunordered c hc => ?_, fun e he => ?_⟩
  · rw [hways]
    split <;> omega
  · have hordered : (v.compare? bound).isSome = true :=
      Bson.isSome_compare?_iff.mpr ⟨hkind ▸ h, hkind, hv, hbound⟩
    rw [hways, hordered, hlook]
    rfl
  · have hnone : v.compare? bound = none := by
      rw [← Option.not_isSome_iff_eq_none, Bson.isSome_compare?_iff]
      rintro ⟨-, hkind, hv, hbound⟩
      simp [hkind, hv, hbound] at hunordered
    exact Where.holds_ranges_of_unordered hvalue hplain hnone hc
  · have hbound : bound.asArray? = none := by
      cases bound <;> first | rfl | cases h
    exact ⟨Where.holds_swap hvalue hplain rfl rfl (by decide) hbound he,
      Where.holds_swap hvalue hplain rfl rfl (by decide) hbound he⟩

/-- A count that is one above a double, which it is rounded to. -/
theorem ranges_fit_largeCount :
    let count := Bson.int64 9007199254740993
    let bound := Bson.double (.ofInt _ 9007199254740992)
    (bound.rangeKind?.isSome = true ∧ Document.lookup [("n", count)] "n" = some count ∧
      count.asArray? = none ∧ count.rangeKind? = bound.rangeKind? ∧ count.isNaN = false ∧
      bound.isNaN = false ∧ count.lookalike bound = false ∧
      Document.lookup [("n", bound)] "n" = some bound) ∧
    (Where.looksLikeAt "n" bound [("n", count)] = false ∧
      (Where.lte "n" bound).holds [("n", count)] =
        ((Where.lt "n" bound).holds [("n", count)] || (Where.eq "n" bound).holds [("n", count)])) ∧
    Where.waysMet "n" bound [("n", count)] = 1 ∧
    (Where.lte "n" bound).holds [("n", count)] = (Where.gte "n" count).holds [("n", bound)] ∧
    (Bson.binary (.ofByte 4) [7]).lookalike (.binary (.ofByte 200) [7]) = false := by
  intro count bound
  have hbound : bound.rangeKind?.isSome = true := rfl
  have hcount : Document.lookup [("n", count)] "n" = some count := rfl
  have hturned : Document.lookup [("n", bound)] "n" = some bound := rfl
  have hnan : bound.isNaN = false := by decide +kernel
  have hlook : Where.looksLikeAt "n" bound [("n", count)] = false := rfl
  obtain ⟨-, -, -, hexact, hnamed, -, hplain⟩ := ranges_fit "n" hbound [("n", count)]
  obtain ⟨-, hone, -, hswap⟩ := hplain count hcount rfl
  exact ⟨⟨hbound, hcount, rfl, rfl, rfl, hnan, rfl, hturned⟩, ⟨hlook, (hexact hlook).2⟩,
    hone rfl rfl hnan rfl, (hswap _ hturned).2, hnamed 4 200 [7] [7]⟩

/-- An identifier as bytes of a subtype that users have defined with the byte of identifiers. -/
def ownKey : Document := [("key", .binary (.userDefined 4) (List.replicate 16 7))]

/-- A range with its bound can find what neither the strict range nor the equality finds, and an
array can stand to a number as the number does not stand to the array. -/
theorem ranges_misfit :
    let key := Bson.uuid ⟨List.replicate 16 7, rfl⟩
    ((Where.gte "key" key).holds ownKey = true ∧ (Where.gt "key" key).holds ownKey = false ∧
      (Where.eq "key" key).holds ownKey = false ∧ Where.waysMet "key" key ownKey = 0) ∧
    (Where.lt "floors" (.int32 5)).holds [("floors", .array [.int32 1])] = true ∧
      (Where.gt "floors" (.array [.int32 1])).holds [("floors", .int32 5)] = false := by
  decide +kernel

end Sift
