/-!
Why a text is not a pattern.
-/

namespace Sift
namespace Pattern

inductive Fault where
  | groupNotOpened
  | groupNotClosed
  | classNotClosed
  | nothingToRepeat
  | badCount
  | badEscape
  | badHex
  | badGroupName
  | badFlags
  | badRange
  | unknownClass
  | lookAround
  | backReference
  /-- A class or a character that may match a part of an encoded character. -/
  | notText
  | tooDeep
  | tooLarge
  deriving DecidableEq, Repr

end Pattern
end Sift
