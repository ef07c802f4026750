/-!
Cutting a text at a separator character.

`pieces` keeps every piece, also empty ones; `trimmedPieces` drops the empty pieces at the end,
so that a separator may close a list as well as divide it.
-/

namespace Sift
namespace Text

/-- The pieces between the separators.  There is always at least one. -/
def pieces (sep : Char) (text : String) : List String :=
  (text.toList.splitOn sep).map String.ofList

/-- The list without the members at its end that satisfy `p`. -/
def dropEndWhile {α : Type} (p : α → Bool) (xs : List α) : List α :=
  (xs.reverse.dropWhile p).reverse

/-- The pieces between the separators, without the empty ones at the end. -/
def trimmedPieces (sep : Char) (text : String) : List String :=
  dropEndWhile (fun piece => piece.isEmpty) (pieces sep text)

theorem pieces_ne_nil (sep : Char) (text : String) : pieces sep text ≠ [] := by
  simp [pieces, List.splitOn_ne_nil]

end Text
end Sift
