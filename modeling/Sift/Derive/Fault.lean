/-!
Why no schema can be derived from a declaration.
-/

namespace Sift

inductive DeriveFault where
  | genericType
  | unnamedFields
  | notARecord
  | unknownRule (name : String)
  /-- An option that only a field may have, or none. -/
  | expectedRename
  | expectedRenameOrSkip
  /-- An attribute or an option of ours that is not written as it has to be. -/
  | illFormed
  deriving DecidableEq, Repr

/-- The fault in words, unless it is one of the way something is written. -/
def DeriveFault.message? : DeriveFault → Option String
  | genericType => some "Filterable cannot be derived for generic types"
  | unnamedFields => some "Filterable can only be derived for structs with named fields"
  | notARecord => some "Filterable can only be derived for structs"
  | unknownRule name => some s!"unknown rename rule `{name}`"
  | expectedRename => some "expected `rename`"
  | expectedRenameOrSkip => some "expected `rename` or `skip`"
  | illFormed => none

end Sift
