/-!
Text as a pattern that matches it as it stands.
-/

namespace Sift
namespace Pattern

/-- The characters that have a meaning of their own somewhere in a pattern. -/
def metaCharacters : List Char :=
  ['\\', '.', '+', '*', '?', '(', ')', '|', '[', ']', '\x7b', '\x7d', '^', '$', '#', '&', '-', '~']

def isMeta (c : Char) : Bool := metaCharacters.contains c

/-- A backslash in front of each character with a meaning. -/
def escapeChars : List Char → List Char
  | [] => []
  | c :: cs => if isMeta c then '\\' :: c :: escapeChars cs else c :: escapeChars cs

def escape (text : String) : String := String.ofList (escapeChars text.toList)

end Pattern
end Sift
