import Mathlib.Data.List.Basic
import Mathlib.Data.List.Induction
import Sift.Keyed

/-!
# First-seen order

`List.eraseDups` keeps of each member the first occurrence.  In this order stand the keys of a list
into which members are put one after the other (`Keyed.map_putAll`).
-/

namespace Sift

variable {α : Type} [BEq α] [LawfulBEq α]

theorem eraseDups_concat (xs : List α) (x : α) :
    (xs ++ [x]).eraseDups =
      if xs.contains x then xs.eraseDups else xs.eraseDups ++ [x] := by
  rw [List.eraseDups_append]
  by_cases h : xs.contains x = true
  · have hnil : [x].removeAll xs = [] := by simpa [List.removeAll] using h
    rw [hnil, if_pos h, List.eraseDups_nil, List.append_nil]
  · have hself : [x].removeAll xs = [x] := by simpa [List.removeAll] using h
    rw [hself, if_neg h, List.eraseDups_cons, List.filter_nil, List.eraseDups_nil]

theorem nodup_eraseDups (xs : List α) : xs.eraseDups.Nodup := by
  induction xs using List.reverseRecOn with
  | nil => simp
  | append_singleton xs x ih =>
    rw [eraseDups_concat]
    split
    · exact ih
    · rename_i hx
      rw [List.nodup_append]
      refine ⟨ih, by simp, fun a ha b hb e => hx ?_⟩
      rw [List.mem_singleton] at hb
      rw [List.mem_eraseDups] at ha
      rw [List.contains_iff_mem, ← hb, ← e]
      exact ha

/-- What stands first in the list without repetitions came first. -/
theorem pairwise_idxOf_eraseDups (xs : List α) :
    xs.eraseDups.Pairwise fun a b => xs.idxOf a < xs.idxOf b := by
  induction xs using List.reverseRecOn with
  | nil => simp
  | append_singleton xs x ih =>
    have hkept : xs.eraseDups.Pairwise fun a b => (xs ++ [x]).idxOf a < (xs ++ [x]).idxOf b := by
      refine ih.imp_of_mem fun ha hb hab => ?_
      rw [List.mem_eraseDups] at ha hb
      rwa [List.idxOf_append_of_mem ha, List.idxOf_append_of_mem hb]
    rw [eraseDups_concat]
    split
    · exact hkept
    · rename_i hx
      rw [List.contains_iff_mem] at hx
      rw [List.pairwise_append]
      refine ⟨hkept, List.pairwise_singleton _ x, fun a ha b hb => ?_⟩
      rw [List.mem_eraseDups] at ha
      rw [List.mem_singleton.mp hb, List.idxOf_append_of_mem ha, List.idxOf_append_of_notMem hx]
      exact Nat.lt_of_lt_of_le (List.idxOf_lt_length_of_mem ha) (Nat.le_add_right _ _)

namespace Keyed

variable {α κ : Type} [DecidableEq κ]

/-- The list into which members are put one after the other. -/
def putAll (key : α → κ) (xs : List α) : List α :=
  xs.foldl (fun made x => put key x made) []

theorem putAll_concat (key : α → κ) (xs : List α) (x : α) :
    putAll key (xs ++ [x]) = put key x (putAll key xs) := by
  rw [putAll, List.foldl_append]
  rfl

/-- The keys stand in the order in which they first came. -/
theorem map_putAll (key : α → κ) (xs : List α) :
    (putAll key xs).map key = (xs.map key).eraseDups := by
  induction xs using List.reverseRecOn with
  | nil => rfl
  | append_singleton xs x ih =>
    rw [putAll_concat, map_put, ih, List.map_append, List.map_singleton, eraseDups_concat]
    simp only [List.mem_eraseDups, List.contains_iff_mem]

/-- A key stands for the member that came last with it. -/
theorem get?_putAll (key : α → κ) (xs : List α) (k : κ) :
    get? key k (putAll key xs) = (xs.filter fun x => key x = k).getLast? := by
  induction xs using List.reverseRecOn with
  | nil => rfl
  | append_singleton xs x ih =>
    rw [putAll_concat, List.filter_append, List.getLast?_append]
    by_cases h : key x = k
    · rw [← h, get?_put_self]
      simp
    · rw [get?_put_of_ne key h, ih]
      simp [h]

end Keyed

end Sift
