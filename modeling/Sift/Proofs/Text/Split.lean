import Mathlib.Data.List.DropRight
import Sift.Text.Split

/-!
# Texts made of parts

Cutting a text at a separator is the only way to read it as parts that do not hold the separator.
`trimmedPieces_eq_iff` says this with separators allowed at the end: the trimmed pieces are the one
list of parts, the last of them not empty, that the text is made of.
-/

namespace Sift
namespace Text

/-- The parts do not hold the separator and the last one is not empty; the text has one separator
between any two of them and any number of separators behind them. -/
structure MadeOf (sep : Char) (parts : List String) (text : String) : Prop where
  free : ∀ part ∈ parts, sep ∉ part.toList
  last : ∀ h : parts ≠ [], parts.getLast h ≠ ""
  trail : ∃ k, text.toList =
    [sep].intercalate (parts.map String.toList) ++ List.replicate k sep

/-! ## Separators at the end -/

theorem intercalate_concat_nil (sep : Char) {parts : List (List Char)} (h : parts ≠ []) :
    [sep].intercalate (parts ++ [[]]) = [sep].intercalate parts ++ [sep] := by
  induction parts with
  | nil => exact absurd rfl h
  | cons part parts ih =>
    by_cases hnil : parts = []
    · simp [hnil]
    · rw [List.cons_append, List.intercalate_cons_of_ne_nil (by simp), ih hnil,
        List.intercalate_cons_of_ne_nil hnil]
      simp

/-- Empty parts at the end are separators at the end. -/
theorem intercalate_append_nils (sep : Char) {parts : List (List Char)} (h : parts ≠ []) (n : Nat) :
    [sep].intercalate (parts ++ List.replicate n []) =
      [sep].intercalate parts ++ List.replicate n sep := by
  induction n with
  | zero => simp
  | succ n ih =>
    rw [List.replicate_succ', ← List.append_assoc, intercalate_concat_nil sep (by simp [h]), ih,
      List.replicate_succ', List.append_assoc]

theorem dropEndWhile_append_nils {parts : List String}
    (h : ∀ hne : parts ≠ [], parts.getLast hne ≠ "") (n : Nat) :
    dropEndWhile (fun piece => piece.isEmpty) (parts ++ List.replicate n "") = parts := by
  show (parts ++ List.replicate n "").rdropWhile (fun piece => piece.isEmpty) = parts
  induction n with
  | zero =>
    rw [List.replicate_zero, List.append_nil, List.rdropWhile_eq_self_iff]
    intro hne hempty
    exact h hne (String.isEmpty_iff.mp hempty)
  | succ n ih =>
    rw [List.replicate_succ', ← List.append_assoc, List.rdropWhile_concat_pos _ _ _ rfl, ih]

theorem getLast_trimmedPieces (sep : Char) (text : String) (h : trimmedPieces sep text ≠ []) :
    (trimmedPieces sep text).getLast h ≠ "" := by
  intro hlast
  refine List.rdropWhile_last_not (fun piece : String => piece.isEmpty) (pieces sep text) h ?_
  exact String.isEmpty_iff.mpr hlast

/-- The pieces are the trimmed ones and empty ones behind them. -/
theorem exists_pieces_eq (sep : Char) (text : String) :
    ∃ n, pieces sep text = trimmedPieces sep text ++ List.replicate n "" := by
  refine ⟨((pieces sep text).rtakeWhile fun piece => piece.isEmpty).length, ?_⟩
  refine (List.rdropWhile_append_rtakeWhile (p := fun piece => piece.isEmpty)).symm.trans ?_
  congr 1
  refine List.eq_replicate_of_mem fun piece hpiece => ?_
  exact String.isEmpty_iff.mp (List.mem_rtakeWhile_imp hpiece)

/-! ## Parts and pieces -/

theorem map_toList_pieces (sep : Char) (text : String) :
    (pieces sep text).map String.toList = text.toList.splitOn sep := by
  rw [pieces, List.map_map]
  simp [Function.comp_def]

theorem not_mem_of_mem_splitOn {sep : Char} {cs part : List Char} (h : part ∈ cs.splitOn sep) :
    sep ∉ part := by
  induction cs generalizing part with
  | nil => simp_all
  | cons c cs ih =>
    rw [List.splitOn_cons_eq_if_modifyHead] at h
    split at h
    · rcases List.mem_cons.mp h with rfl | h
      · simp
      · exact ih h
    · rename_i hc
      obtain ⟨first, rest, hcs⟩ := List.exists_cons_of_ne_nil (List.splitOn_ne_nil sep cs)
      rw [hcs] at h ih
      rcases List.mem_cons.mp h with rfl | h
      · have hne : c ≠ sep := by simpa using hc
        simp [hne.symm, ih]
      · exact ih (List.mem_cons_of_mem first h)

theorem not_mem_of_mem_pieces {sep : Char} {text piece : String} (h : piece ∈ pieces sep text) :
    sep ∉ piece.toList := by
  have hmem : piece.toList ∈ (pieces sep text).map String.toList := List.mem_map_of_mem h
  rw [map_toList_pieces] at hmem
  exact not_mem_of_mem_splitOn hmem

theorem pieces_of_toList_eq {sep : Char} {parts : List String} {text : String}
    (hfree : ∀ part ∈ parts, sep ∉ part.toList) (hne : parts ≠ [])
    (h : text.toList = [sep].intercalate (parts.map String.toList)) : pieces sep text = parts := by
  have hmap : (pieces sep text).map String.toList = parts.map String.toList := by
    rw [map_toList_pieces, h, List.splitOn_intercalate]
    · intro l hl
      obtain ⟨part, hpart, rfl⟩ := List.mem_map.mp hl
      exact hfree part hpart
    · simpa using hne
  exact List.map_injective_iff.mpr (fun _ _ => String.toList_inj.mp) hmap

/-- Trimmed pieces are what a text is made of. -/
theorem madeOf_trimmedPieces (sep : Char) (text : String) :
    MadeOf sep (trimmedPieces sep text) text := by
  obtain ⟨n, hpieces⟩ := exists_pieces_eq sep text
  have htext : text.toList = [sep].intercalate ((pieces sep text).map String.toList) := by
    rw [map_toList_pieces, List.intercalate_splitOn]
  refine ⟨fun part hpart => ?_, getLast_trimmedPieces sep text, ?_⟩
  · have hmem : part ∈ pieces sep text := hpieces ▸ List.mem_append_left _ hpart
    exact not_mem_of_mem_pieces hmem
  · rw [hpieces, List.map_append, List.map_replicate] at htext
    by_cases hnil : trimmedPieces sep text = []
    · -- Only separators: the first piece is in front of them, not between two.
      cases n with
      | zero => exact absurd (by simpa [hnil] using hpieces) (pieces_ne_nil sep text)
      | succ n =>
        refine ⟨n, htext.trans ?_⟩
        have hnils := intercalate_append_nils sep (List.cons_ne_nil [] []) n
        simpa [hnil, List.replicate_succ] using hnils
    · exact ⟨n, htext.trans (intercalate_append_nils sep (by simpa using hnil) n)⟩

/-- A text is made of one list of parts at most. -/
theorem trimmedPieces_of_madeOf {sep : Char} {parts : List String} {text : String}
    (h : MadeOf sep parts text) : trimmedPieces sep text = parts := by
  obtain ⟨k, htext⟩ := h.trail
  by_cases hnil : parts = []
  · have hpieces : pieces sep text = List.replicate (k + 1) "" := by
      refine pieces_of_toList_eq (fun part hpart => ?_) (by simp) ?_
      · simp [List.eq_of_mem_replicate hpart]
      · have hnils := intercalate_append_nils sep (List.cons_ne_nil [] []) k
        rw [htext, List.map_replicate]
        simpa [hnil, List.replicate_succ] using hnils.symm
    rw [trimmedPieces, hpieces, hnil]
    exact dropEndWhile_append_nils (fun hne => absurd rfl hne) (k + 1)
  · have hpieces : pieces sep text = parts ++ List.replicate k "" := by
      refine pieces_of_toList_eq (fun part hpart => ?_) (by simp [hnil]) ?_
      · rcases List.mem_append.mp hpart with hpart | hpart
        · exact h.free part hpart
        · simp [List.eq_of_mem_replicate hpart]
      · rw [htext, List.map_append, List.map_replicate]
        exact (intercalate_append_nils sep (by simpa using hnil) k).symm
    rw [trimmedPieces, hpieces]
    exact dropEndWhile_append_nils h.last k

theorem trimmedPieces_eq_iff {sep : Char} {parts : List String} {text : String} :
    trimmedPieces sep text = parts ↔ MadeOf sep parts text :=
  ⟨fun h => h ▸ madeOf_trimmedPieces sep text, trimmedPieces_of_madeOf⟩

end Text
end Sift
