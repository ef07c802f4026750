import Sift.Keyed

/-!
Hash maps and hash sets.

A key feeds numbers to a hasher, which makes one code of them.  A map keeps its members in chains, a
chain for each code that came, and looks for a key in the chain of its code only.  So a member is
found again only if keys that are equal feed the same numbers (`LawfulFeeds`).
-/

namespace Sift

/-- What a key feeds to a hasher. -/
class Feeds (κ : Type) where
  fed : κ → List Nat

export Feeds (fed)

/-- Equal keys feed the same. -/
class LawfulFeeds (κ : Type) [BEq κ] [Feeds κ] : Prop where
  fed_eq {k l : κ} (h : (k == l) = true) : fed k = fed l

/-- The code that a hasher makes of what it was fed. -/
def hashCode (numbers : List Nat) : Nat :=
  numbers.foldl (fun code n => (code * 31 + n) % 4294967291) 5381

theorem LawfulFeeds.of_lawfulBEq {κ : Type} [BEq κ] [LawfulBEq κ] [Feeds κ] : LawfulFeeds κ :=
  ⟨fun h => congrArg fed (eq_of_beq h)⟩

instance : Feeds String := ⟨fun text => text.toList.map Char.toNat⟩

instance : LawfulFeeds String := .of_lawfulBEq

variable {κ α : Type} [BEq κ]

namespace Chain

def get? (chain : List (κ × α)) (k : κ) : Option α :=
  (chain.find? fun e => e.1 == k).map Prod.snd

/-- Puts a member under a key, in the place of the one under an equal key or at the end. -/
def insert (chain : List (κ × α)) (k : κ) (x : α) : List (κ × α) :=
  match chain with
  | [] => [(k, x)]
  | e :: chain => if e.1 == k then (e.1, x) :: chain else e :: insert chain k x

theorem get?_insert [EquivBEq κ] (chain : List (κ × α)) (k l : κ) (x : α) :
    get? (insert chain k x) l = if k == l then some x else get? chain l := by
  induction chain with
  | nil => cases h : k == l <;> simp [insert, get?, h]
  | cons e chain ih =>
    unfold insert
    by_cases he : (e.1 == k) = true
    · rw [if_pos he]
      cases h : k == l with
      | true => simp [get?, BEq.trans he h]
      | false =>
        have hne : (e.1 == l) = false := by
          rw [← Bool.not_eq_true] at h ⊢
          exact fun hl => h (BEq.trans (BEq.symm he) hl)
        simp [get?, hne]
    · rw [if_neg he]
      by_cases hl : (e.1 == l) = true
      · have hne : (k == l) = false := by
          rw [← Bool.not_eq_true]
          exact fun h => he (BEq.trans hl (BEq.symm h))
        simp [get?, hl, hne]
      · simpa [get?, hl] using ih

end Chain

variable [Feeds κ]

structure HashMap (κ α : Type) where
  /-- The chains under their codes. -/
  chains : List (Nat × List (κ × α))

namespace HashMap

def empty : HashMap κ α := ⟨[]⟩

/-- The members whose keys have a code. -/
def chain (m : HashMap κ α) (code : Nat) : List (κ × α) :=
  ((Keyed.get? Prod.fst code m.chains).map Prod.snd).getD []

def get? (m : HashMap κ α) (k : κ) : Option α := Chain.get? (m.chain (hashCode (fed k))) k

/-- Puts a member under a key.  If there is an equal key, it stands for the new member from now
on. -/
def insert (m : HashMap κ α) (k : κ) (x : α) : HashMap κ α :=
  let code := hashCode (fed k)
  ⟨Keyed.put Prod.fst (code, Chain.insert (m.chain code) k x) m.chains⟩

/-- All keys, in no order that matters. -/
def keys (m : HashMap κ α) : List κ := m.chains.flatMap fun c => c.2.map Prod.fst

theorem get?_empty (k : κ) : (empty : HashMap κ α).get? k = none := rfl

theorem chain_insert (m : HashMap κ α) (k : κ) (x : α) (code : Nat) :
    (m.insert k x).chain code =
      if hashCode (fed k) = code then Chain.insert (m.chain code) k x else m.chain code := by
  split
  · rename_i h
    subst h
    rw [chain, insert]
    simp only [Keyed.get?_put_self Prod.fst (hashCode (fed k), _)]
    rfl
  · rename_i h
    rw [chain, insert]
    simp only [Keyed.get?_put_of_ne Prod.fst (x := (hashCode (fed k), _)) h]
    rfl

/-- A key stands for what was put last under an equal one. -/
theorem get?_insert [EquivBEq κ] [LawfulFeeds κ] (m : HashMap κ α) (k l : κ) (x : α) :
    (m.insert k x).get? l = if k == l then some x else m.get? l := by
  unfold get?
  rw [chain_insert]
  split
  · exact Chain.get?_insert _ k l x
  · rename_i hcode
    have hne : (k == l) = false := by
      rw [← Bool.not_eq_true]
      exact fun h => hcode (congrArg hashCode (LawfulFeeds.fed_eq h))
    rw [hne]
    rfl

end HashMap

/-- The keys of a map that has nothing to tell about them. -/
structure HashSet (κ : Type) where
  map : HashMap κ Unit

namespace HashSet

def empty : HashSet κ := ⟨.empty⟩

def contains (s : HashSet κ) (k : κ) : Bool := (s.map.get? k).isSome

/-- Adds a key, and says whether it was new. -/
def insert (s : HashSet κ) (k : κ) : Bool × HashSet κ :=
  (!s.contains k, ⟨s.map.insert k ()⟩)

def keys (s : HashSet κ) : List κ := s.map.keys

def size (s : HashSet κ) : Nat := s.keys.length

/-- Both sets have as many keys, and the second has those of the first. -/
def same (s t : HashSet κ) : Bool := s.size == t.size && s.keys.all t.contains

theorem contains_empty (k : κ) : (empty : HashSet κ).contains k = false := rfl

theorem contains_insert [EquivBEq κ] [LawfulFeeds κ] (s : HashSet κ) (k l : κ) :
    (s.insert k).2.contains l = (k == l || s.contains l) := by
  simp only [contains, insert, HashMap.get?_insert]
  cases k == l <;> rfl

end HashSet
end Sift
