import Sift.Code.Literal
import Sift.Text.Blank

/-!
The tokens of program code.

Code is a list of words, literals and signs, with what stands in brackets as one token.  White
space and comments only keep tokens apart, but a comment that documents what follows it is an
attribute.
-/

namespace Sift
namespace Code

inductive Bracket where
  | round
  | square
  | curly
  deriving DecidableEq, Repr

namespace Bracket

def opening : Bracket → Char
  | round => '('
  | square => '['
  | curly => '\x7b'

def closing : Bracket → Char
  | round => ')'
  | square => ']'
  | curly => '\x7d'

def all : List Bracket := [round, square, curly]

end Bracket

inductive Token where
  /-- A name or a keyword; a marked one, as in `r#type`, is never a keyword. -/
  | word (name : String) (marked : Bool)
  /-- A name with an apostrophe in front. -/
  | lifetime (name : String)
  | literal (source : String) (kind : LiteralKind)
  /-- A sign; `joined` if another sign follows at once. -/
  | sign (char : Char) (joined : Bool)
  | group (bracket : Bracket) (inside : List Token)

namespace Token

/-! ## Reading -/

/-- The text behind a comment that may hold comments, after its opening; `depth` more are open. -/
def afterComment? : Nat → List Char → Option (List Char)
  | _, [] => none
  | _, [_] => none
  | depth, c :: d :: cs =>
    if c = '*' ∧ d = '/' then
      match depth with
      | 0 => some cs
      | depth + 1 => afterComment? depth cs
    else if c = '/' ∧ d = '*' then afterComment? (depth + 1) cs
    else afterComment? depth (d :: cs)

/-- The characters up to the end of the line. -/
def lineEnd (cs : List Char) : List Char := cs.dropWhile (· != '\n')

/-- The marks of writing direction are blank in code too. -/
def isGap (c : Char) : Bool :=
  Text.isBlank c || c == '\u200e' || c == '\u200f'

/-- The text behind white space and comments that document nothing. -/
def skipGap : Nat → List Char → List Char
  | 0, cs => cs
  | n + 1, cs =>
    match cs with
    | '/' :: '/' :: '!' :: _ => cs
    | '/' :: '/' :: '/' :: '/' :: rest => skipGap n (lineEnd rest)
    | '/' :: '/' :: '/' :: _ => cs
    | '/' :: '/' :: rest => skipGap n (lineEnd rest)
    | '/' :: '*' :: '*' :: '/' :: rest => skipGap n rest
    | '/' :: '*' :: '!' :: _ => cs
    | '/' :: '*' :: '*' :: '*' :: rest =>
      ((afterComment? 0 ('*' :: '*' :: rest)).map (skipGap n)).getD cs
    | '/' :: '*' :: '*' :: _ => cs
    | '/' :: '*' :: rest => ((afterComment? 0 rest).map (skipGap n)).getD cs
    | c :: rest => if isGap c then skipGap n rest else cs
    | [] => []

/-- The attribute that documents what follows, or what it stands in. -/
def documentation (inner : Bool) (text : List Char) : List Token :=
  let quoted := text.flatMap fun c => if c == '"' || c == '\\' then ['\\', c] else [c]
  let literal := Token.literal (String.ofList ('"' :: quoted ++ ['"'])) (.text text)
  .sign '#' inner :: (if inner then [.sign '!' false] else []) ++
    [.group .square [.word "doc" false, .sign '=' false, literal]]

/-- A comment that documents something. -/
def documentation? (cs : List Char) : Option (List Token × List Char) :=
  let line (inner : Bool) (rest : List Char) :=
    some (documentation inner (rest.takeWhile (· != '\n')), lineEnd rest)
  let block (inner : Bool) (rest : List Char) := do
    let after ← afterComment? 0 rest
    return (documentation inner (rest.take (rest.length - after.length - 2)), after)
  match cs with
  | '/' :: '/' :: '!' :: rest => line true rest
  | '/' :: '/' :: '/' :: rest => line false rest
  | '/' :: '*' :: '!' :: rest => block true rest
  | '/' :: '*' :: '*' :: rest => block false rest
  | _ => none

def isSign (c : Char) : Bool := "~!@#$%^&*-=+|;:,<.>/?'".toList.contains c

/-- A sign is at the start of the text, and not a comment. -/
def startsSign : List Char → Bool
  | '/' :: '/' :: _ => false
  | '/' :: '*' :: _ => false
  | c :: _ => isSign c
  | [] => false

/-- Names that cannot be marked. -/
def unmarkable : List String := ["_", "super", "self", "Self", "crate"]

/-- A word with or without its mark. -/
def word? (cs : List Char) : Option (Token × List Char) :=
  match cs with
  | 'r' :: '#' :: rest => do
    let (name, rest) ← splitWord? rest
    if unmarkable.contains (String.ofList name) then none
    else return (word (String.ofList name) true, rest)
  | _ => do
    let (name, rest) ← splitWord? cs
    return (word (String.ofList name) false, rest)

/-- Words are not followed by a quotation mark that would make them part of a literal. -/
def startsLiteral (cs : List Char) : Bool :=
  ["r\"", "r#\"", "r##", "b\"", "b'", "br\"", "br#", "c\"", "cr\"", "cr#"].any fun mark =>
    (after? mark.toList cs).isSome

/-- A name after its apostrophe, which no other apostrophe closes. -/
def lifetime? (cs : List Char) : Option (Token × List Char) := do
  match ← word? cs with
  | (word name marked, rest) =>
    if rest.head? = some '\x27' ∨ rest.head? = some '#' ∧ !marked then none
    else return (lifetime (if marked then "r#" ++ name else name), rest)
  | _ => none

/-- The tokens at the start of a text that is not blank and starts with no bracket. -/
def leaf? (cs : List Char) : Option (List Token × List Char) :=
  match documentation? cs with
  | some read => some read
  | none =>
    match literal? cs with
    | some (kind, rest) =>
      some ([literal (String.ofList (cs.take (cs.length - rest.length))) kind], rest)
    | none =>
      match cs with
      | '\x27' :: rest => (lifetime? rest).map fun (token, rest) => ([token], rest)
      | c :: rest =>
        if startsSign cs then some ([sign c (startsSign rest)], rest)
        else if startsLiteral cs then none
        else (word? cs).map fun (token, rest) => ([token], rest)
      | [] => none

/-- Reads tokens up to the end or a closing bracket, in at most `n` steps. -/
def read? : Nat → List Char → Option (List Token × List Char)
  | 0, _ => none
  | n + 1, cs =>
    match skipGap cs.length cs with
    | [] => some ([], [])
    | c :: cs =>
      match Bracket.all.find? fun b => b.opening == c with
      | some b => do
        let (inside, rest) ← read? n cs
        let (more, rest) ← read? n (← after? [b.closing] rest)
        return (group b inside :: more, rest)
      | none =>
        if Bracket.all.any fun b => b.closing == c then some ([], c :: cs)
        else do
          let (tokens, rest) ← leaf? (c :: cs)
          let (more, rest) ← read? n rest
          return (tokens ++ more, rest)

/-- The tokens of a text, if it is made of tokens and every bracket has its partner. -/
def readAll? (text : String) : Option (List Token) :=
  match read? (text.toList.length + 1) text.toList with
  | some (tokens, []) => some tokens
  | _ => none

/-! ## Writing -/

mutual

/-- The characters of a token, without white space between tokens. -/
def chars : Token → List Char
  | word name marked => (if marked then ['r', '#'] else []) ++ name.toList
  | lifetime name => '\x27' :: name.toList
  | literal source _ => source.toList
  | sign c _ => [c]
  | group b inside => b.opening :: charsOf inside ++ [b.closing]

def charsOf : List Token → List Char
  | [] => []
  | token :: tokens => token.chars ++ charsOf tokens

end

end Token
end Code
end Sift
