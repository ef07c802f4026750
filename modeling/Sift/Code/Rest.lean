import Sift.Code.Token

/-!
What is left of the tokens of a piece of code while it is read.

A reader takes what is left and gives what is left behind the part that it is for, or nothing if
that part is not there.  Groups are read by a reader of their own; one that stops before the end of
its group leaves a cut, which makes the code as a whole unreadable but not what comes before the
end of it.
-/

namespace Sift
namespace Code

structure Rest where
  tokens : List Token
  /-- A group has been left before its end. -/
  cut : Bool

/-- Words that name nothing unless they are marked. -/
def keywords : List String :=
  ["_", "abstract", "as", "async", "await", "become", "box", "break", "const", "continue", "crate",
   "do", "dyn", "else", "enum", "extern", "false", "final", "fn", "for", "if", "impl", "in", "let",
   "loop", "macro", "match", "mod", "move", "mut", "override", "priv", "pub", "ref", "return",
   "Self", "self", "static", "struct", "super", "trait", "true", "try", "type", "typeof", "unsafe",
   "unsized", "use", "virtual", "where", "while", "yield"]

abbrev Reader := Rest → Option Rest

namespace Rest

/-- All of some tokens is left. -/
def ofTokens (tokens : List Token) : Rest := ⟨tokens, false⟩

/-- What is left without the next `n` tokens. -/
def skip (n : Nat) (r : Rest) : Rest := { r with tokens := r.tokens.drop n }

def isEmpty (r : Rest) : Bool := r.tokens.isEmpty

/-- Everything has been read, in the groups too. -/
def isDone (r : Rest) : Bool := r.isEmpty && !r.cut

/-- Nothing has been read since `before`. -/
def unmoved (before r : Rest) : Bool := before.tokens.length == r.tokens.length

/-! ## What comes next -/

/-- The tokens start with signs that are joined. -/
def startsWith : List Char → List Token → Bool
  | [], _ => true
  | c :: cs, .sign d joined :: rest =>
    c == d && (cs.isEmpty || joined && startsWith cs rest)
  | _, _ => false

def atSigns (signs : String) (r : Rest) : Bool := startsWith signs.toList r.tokens

/-- One sign comes next and not the start of one of the others. -/
def atSignsOnly (signs : String) (others : List String) (r : Rest) : Bool :=
  r.atSigns signs && !others.any r.atSigns

def atWord (keyword : String) (r : Rest) : Bool :=
  match r.tokens with
  | .word name false :: _ => name == keyword
  | _ => false

def atOneOf (words : List String) (r : Rest) : Bool := words.any r.atWord

def atAnyWord (r : Rest) : Bool :=
  match r.tokens with
  | .word _ _ :: _ => true
  | _ => false

/-- A word comes next that may be a name. -/
def atName (r : Rest) : Bool :=
  match r.tokens with
  | .word name marked :: _ => marked || !keywords.contains name
  | _ => false

def atLifetime (r : Rest) : Bool :=
  match r.tokens with
  | .lifetime _ :: _ => true
  | _ => false

def atGroup (bracket : Bracket) (r : Rest) : Bool :=
  match r.tokens with
  | .group b _ :: _ => b == bracket
  | _ => false

/-- A literal comes next that is one token. -/
def atPlainLiteral (r : Rest) : Bool :=
  r.atOneOf ["true", "false"] ||
    match r.tokens with
    | .literal _ _ :: _ => true
    | _ => false

/-- A number comes next, with a minus sign in front. -/
def atNegative (r : Rest) : Bool :=
  match r.tokens with
  | .sign '-' _ :: .literal _ .integer :: _ => true
  | .sign '-' _ :: .literal _ .decimal :: _ => true
  | _ => false

def atLiteral (r : Rest) : Bool := r.atPlainLiteral || r.atNegative

/-- The next word stands for a module or a type rather than a name of its own. -/
def atPathKeyword (r : Rest) : Bool := r.atOneOf ["self", "Self", "super", "crate"]

/-! ## Reading one thing -/

def signs? (signs : String) (r : Rest) : Option Rest :=
  if r.atSigns signs then some (r.skip signs.length) else none

def word? (keyword : String) (r : Rest) : Option Rest :=
  if r.atWord keyword then some (r.skip 1) else none

def name? (r : Rest) : Option Rest := if r.atName then some (r.skip 1) else none

def lifetime? (r : Rest) : Option Rest := if r.atLifetime then some (r.skip 1) else none

def literal? (r : Rest) : Option Rest :=
  if r.atPlainLiteral then some (r.skip 1)
  else if r.atNegative then some (r.skip 2)
  else none

/-- A word, if it is there. -/
def optionalWord (keyword : String) (r : Rest) : Rest :=
  if r.atWord keyword then r.skip 1 else r

/-- Signs, if they are there. -/
def optionalSigns (signs : String) (r : Rest) : Rest :=
  if r.atSigns signs then r.skip signs.length else r

/-- A group in brackets, whose inside is read by a reader of its own. -/
def group? (bracket : Bracket) (inside : Reader) (r : Rest) : Option Rest :=
  match r.tokens with
  | .group b tokens :: rest =>
    if b = bracket then do
      let left ← inside ⟨tokens, r.cut⟩
      return ⟨rest, left.cut || !left.isEmpty⟩
    else none
  | _ => none

/-- A group in any brackets, whatever is in it. -/
def anyGroup? (r : Rest) : Option Rest :=
  match r.tokens with
  | .group _ _ :: _ => some (r.skip 1)
  | _ => none

/-- The names of a path without arguments. -/
def names? : Nat → Reader
  | 0, _ => none
  | n + 1, r =>
    if r.atName || r.atPathKeyword || r.atWord "try" then
      let r := r.skip 1
      if r.atSigns "::" then names? n (r.skip 2) else some r
    else none

/-- A path without arguments. -/
def plainPath? (r : Rest) : Option Rest := names? (r.tokens.length + 1) (r.optionalSigns "::")

end Rest
end Code
end Sift
