import Mathlib.Data.List.Perm.Subperm
import Sift.Hash

/-!
# The keys of a hash map

A look-up after an insertion comes out right in any map (`HashMap.get?_insert`).  Which keys a map
has, and how many, asks for more: that each key lies in the chain of its code, and that no two keys
are equal (`HashMap.WellFormed`).  Insertions keep this, so the keys of a map that was built by
insertions are those under which it finds something, each once.
-/

namespace Sift

/-- No two of the keys are equal. -/
def Apart {κ : Type} [BEq κ] (keys : List κ) : Prop :=
  keys.Pairwise fun k l => (k == l) = false

theorem apart_iff_nodup {κ : Type} [BEq κ] [LawfulBEq κ] {keys : List κ} :
    Apart keys ↔ keys.Nodup := by
  simp only [Apart, beq_eq_false_iff_ne]
  rfl

namespace Chain

variable {κ α : Type} [BEq κ]

/-- An insertion changes the keys only by a new one at the end. -/
theorem map_insert (chain : List (κ × α)) (k : κ) (x : α) :
    (insert chain k x).map Prod.fst =
      if (chain.map Prod.fst).any (· == k) then chain.map Prod.fst
      else chain.map Prod.fst ++ [k] := by
  induction chain with
  | nil => rfl
  | cons e chain ih =>
    unfold insert
    cases he : e.1 == k with
    | true => simp [he]
    | false =>
      simp only [he, Bool.false_eq_true, if_false, List.map_cons, ih, List.any_cons, Bool.false_or]
      split <;> rfl

theorem mem_map_insert {chain : List (κ × α)} {k l : κ} {x : α}
    (h : l ∈ (insert chain k x).map Prod.fst) : l ∈ chain.map Prod.fst ∨ l = k := by
  rw [map_insert] at h
  split at h
  · exact .inl h
  · simpa using h

theorem apart_insert {chain : List (κ × α)} (h : Apart (chain.map Prod.fst)) (k : κ) (x : α) :
    Apart ((insert chain k x).map Prod.fst) := by
  rw [map_insert]
  split
  · exact h
  · rename_i hnew
    refine List.pairwise_append.mpr ⟨h, List.pairwise_singleton _ k, fun l hl k' hk' => ?_⟩
    rw [List.mem_singleton.mp hk', ← Bool.not_eq_true]
    exact fun he => hnew (List.any_eq_true.mpr ⟨l, hl, he⟩)

theorem isSome_get?_iff {chain : List (κ × α)} {k : κ} :
    (get? chain k).isSome = true ↔ ∃ l ∈ chain.map Prod.fst, (l == k) = true := by
  simp [get?, List.find?_isSome]

end Chain

namespace HashMap

/-- The chain of a code is empty or is kept under the code. -/
theorem chain_eq_nil_or_mem {κ α : Type} (m : HashMap κ α) (code : Nat) :
    m.chain code = [] ∨ (code, m.chain code) ∈ m.chains := by
  unfold chain
  cases hget : Keyed.get? Prod.fst code m.chains with
  | none => exact .inl rfl
  | some c =>
    obtain ⟨hc, rfl⟩ := Keyed.mem_of_get? Prod.fst hget
    exact .inr hc

variable {κ α : Type} [BEq κ] [Feeds κ]

/-- Each code has one chain, the keys in the chain have the code, and no two of them are equal. -/
structure WellFormed (m : HashMap κ α) : Prop where
  nodup_codes : (m.chains.map Prod.fst).Nodup
  placed : ∀ c ∈ m.chains, ∀ k ∈ c.2.map Prod.fst, hashCode (fed k) = c.1
  apart : ∀ c ∈ m.chains, Apart (c.2.map Prod.fst)

variable {m : HashMap κ α}

theorem WellFormed.empty : WellFormed (.empty : HashMap κ α) := ⟨.nil, nofun, nofun⟩

theorem WellFormed.chain_of_mem (h : m.WellFormed) {c : Nat × List (κ × α)} (hc : c ∈ m.chains) :
    m.chain c.1 = c.2 := by
  rw [chain, Keyed.get?_of_mem Prod.fst h.nodup_codes hc]
  rfl

theorem WellFormed.insert (h : m.WellFormed) (k : κ) (x : α) : (m.insert k x).WellFormed := by
  have hold := m.chain_eq_nil_or_mem (hashCode (fed k))
  refine ⟨Keyed.nodup_put _ _ h.nodup_codes, fun c hc l hl => ?_, fun c hc => ?_⟩
  · rcases Keyed.mem_put hc with rfl | hc
    · rcases Chain.mem_map_insert hl with hl | rfl
      · rcases hold with hnil | hmem
        · simp [hnil] at hl
        · exact h.placed _ hmem l hl
      · rfl
    · exact h.placed c hc l hl
  · rcases Keyed.mem_put hc with rfl | hc
    · refine Chain.apart_insert ?_ k x
      rcases hold with hnil | hmem
      · rw [hnil]
        exact .nil
      · exact h.apart _ hmem
    · exact h.apart c hc

variable [LawfulFeeds κ]

/-- A map finds something under the keys that are equal to one of its own. -/
theorem WellFormed.isSome_get?_iff (h : m.WellFormed) {k : κ} :
    (m.get? k).isSome = true ↔ ∃ l ∈ m.keys, (l == k) = true := by
  rw [get?, Chain.isSome_get?_iff]
  constructor
  · rintro ⟨l, hl, hlk⟩
    refine ⟨l, List.mem_flatMap.mpr ?_, hlk⟩
    rcases m.chain_eq_nil_or_mem (hashCode (fed k)) with hnil | hmem
    · simp [hnil] at hl
    · exact ⟨_, hmem, hl⟩
  · rintro ⟨l, hl, hlk⟩
    obtain ⟨c, hc, hl⟩ := List.mem_flatMap.mp hl
    refine ⟨l, ?_, hlk⟩
    rwa [← LawfulFeeds.fed_eq hlk, h.placed c hc l hl, h.chain_of_mem hc]

/-- Keys in two chains have two codes, so they are not equal either. -/
theorem WellFormed.apart_keys (h : m.WellFormed) : Apart m.keys := by
  refine List.pairwise_flatMap.mpr ⟨h.apart, ?_⟩
  refine (List.pairwise_map.mp h.nodup_codes).imp_of_mem fun hc hd hne k hk l hl => ?_
  rw [← Bool.not_eq_true]
  intro hkl
  apply hne
  rw [← h.placed _ hc k hk, ← h.placed _ hd l hl, LawfulFeeds.fed_eq hkl]

end HashMap

namespace HashSet

variable {κ : Type} [BEq κ] [LawfulBEq κ] [Feeds κ] [LawfulFeeds κ]

/-- The keys of a list are those of a set, in some order. -/
structure Lists (s : HashSet κ) (ks : List κ) : Prop where
  wellFormed : s.map.WellFormed
  nodup : ks.Nodup
  contains_iff : ∀ k, s.contains k = true ↔ k ∈ ks

variable {s t : HashSet κ} {ks ls : List κ}

omit [LawfulBEq κ] [LawfulFeeds κ] in
theorem Lists.empty : Lists (.empty : HashSet κ) [] := ⟨.empty, .nil, by simp [contains_empty]⟩

/-- A new key comes last in the list, and one that is there changes nothing. -/
theorem Lists.insert (h : s.Lists ks) (k : κ) :
    (s.insert k).1 = decide (k ∉ ks) ∧
      (s.insert k).2.Lists (if k ∈ ks then ks else ks ++ [k]) := by
  refine ⟨?_, h.wellFormed.insert k (), ?_, fun l => ?_⟩
  · rw [HashSet.insert, Bool.eq_iff_iff, Bool.not_eq_true', ← Bool.not_eq_true, h.contains_iff,
      decide_eq_true_eq]
  · split
    · exact h.nodup
    · rename_i hk
      exact List.nodup_append.mpr ⟨h.nodup, by simp, by
        rintro a ha b hb rfl
        exact hk (List.mem_singleton.mp hb ▸ ha)⟩
  · rw [contains_insert, Bool.or_eq_true, beq_iff_eq, h.contains_iff]
    split
    · rename_i hk
      exact ⟨fun hl => hl.elim (fun e => e ▸ hk) id, .inr⟩
    · rw [List.mem_append, List.mem_singleton, eq_comm, or_comm]

theorem Lists.perm_keys (h : s.Lists ks) : s.keys.Perm ks := by
  refine (List.perm_ext_iff_of_nodup (apart_iff_nodup.mp h.wellFormed.apart_keys) h.nodup).mpr ?_
  intro k
  rw [← h.contains_iff, contains, h.wellFormed.isSome_get?_iff]
  simp

theorem Lists.size_eq (h : s.Lists ks) : s.size = ks.length := h.perm_keys.length_eq

/-- `same` asks for one size, and looks for the keys of the first set in the second only. -/
theorem Lists.same_iff (hs : s.Lists ks) (ht : t.Lists ls) :
    s.same t = true ↔ ∀ k, k ∈ ks ↔ k ∈ ls := by
  have hall : s.keys.all t.contains = true ↔ ks ⊆ ls := by
    simp only [List.all_eq_true, ht.contains_iff, hs.perm_keys.mem_iff]
    rfl
  rw [same, Bool.and_eq_true, beq_iff_eq, hs.size_eq, ht.size_eq, hall]
  constructor
  · rintro ⟨hlength, hsub⟩ k
    have hperm := (hs.nodup.subperm hsub).perm_of_length_le (Nat.le_of_eq hlength.symm)
    exact hperm.mem_iff
  · intro h
    refine ⟨?_, fun k hk => (h k).mp hk⟩
    exact ((List.perm_ext_iff_of_nodup hs.nodup ht.nodup).mpr h).length_eq

end HashSet
end Sift
