import Sift.Pattern.Class

/-!
Patterns, and where they match.

`Expr.ends` follows a pattern from a set of places in a text to the places where a match that
begins there can end.  A search begins at all places at once and succeeds if it ends somewhere.
-/

namespace Sift
namespace Pattern

/-- Conditions on a place that take no character. -/
inductive Look where
  | textStart
  | textEnd
  | lineStart
  | lineEnd
  /-- A line may also end with a carriage return. -/
  | lineStartCR
  | lineEndCR
  | wordBoundary (unicode : Bool)
  | notWordBoundary (unicode : Bool)
  | wordStart (unicode : Bool)
  | wordEnd (unicode : Bool)
  | wordStartHalf (unicode : Bool)
  | wordEndHalf (unicode : Bool)

inductive Expr where
  | empty
  /-- One character of a class. -/
  | one (c : Class)
  | look (l : Look)
  | seq (a b : Expr)
  | alt (a b : Expr)
  /-- At least `min` times, and at most `max` times if there is a bound. -/
  | repeated (a : Expr) (min : Nat) (max : Option Nat)
  /-- A group whose match is kept. -/
  | group (a : Expr)

/-- A place in a text. -/
structure Place where
  /-- How many characters stand before it. -/
  index : Nat
  /-- The last of them. -/
  before : Option Char
  /-- The characters after it. -/
  rest : List Char
  deriving DecidableEq

/-- All places of a text that begins at the place `index`, after the character `before`. -/
def placesFrom (index : Nat) (before : Option Char) : List Char → List Place
  | [] => [⟨index, before, []⟩]
  | c :: cs => ⟨index, before, c :: cs⟩ :: placesFrom (index + 1) (some c) cs

/-- All places of a text. -/
def places (text : String) : List Place := placesFrom 0 none text.toList

/-- The place after the next character, if that is of the class. -/
def Place.advance? (c : Class) (p : Place) : Option Place :=
  match p.rest with
  | d :: ds => if c.mem d.toNat then some ⟨p.index + 1, some d, ds⟩ else none
  | [] => none

namespace Look

def isWord (unicode : Bool) (c : Option Char) : Bool :=
  c.any fun c => (Class.words unicode).mem c.toNat

/-- The condition holds at a place. -/
def holds (l : Look) (p : Place) : Bool :=
  let after := p.rest.head?
  match l with
  | textStart => p.before.isNone
  | textEnd => after.isNone
  | lineStart => p.before.isNone || p.before = some '\n'
  | lineEnd => after.isNone || after = some '\n'
  | lineStartCR =>
    p.before.isNone || p.before = some '\n' || (p.before = some '\r' && after ≠ some '\n')
  | lineEndCR =>
    after.isNone || after = some '\r' || (after = some '\n' && p.before ≠ some '\r')
  | wordBoundary unicode => isWord unicode p.before != isWord unicode after
  | notWordBoundary unicode => isWord unicode p.before == isWord unicode after
  | wordStart unicode => !isWord unicode p.before && isWord unicode after
  | wordEnd unicode => isWord unicode p.before && !isWord unicode after
  | wordStartHalf unicode => !isWord unicode p.before
  | wordEndHalf unicode => !isWord unicode after

end Look

/-! ## Sets of places

A set of places of one text is a list in the order of the text. -/

/-- The places of either set. -/
def union : List Place → List Place → List Place
  | [], qs => qs
  | p :: ps, qs =>
    qs.takeWhile (fun q => q.index < p.index) ++
      p :: union ps (qs.dropWhile fun q => q.index ≤ p.index)

/-- The places of the first set that are not in the second. -/
def without : List Place → List Place → List Place
  | [], _ => []
  | p :: ps, qs =>
    let qs := qs.dropWhile fun q => q.index < p.index
    if qs.head?.any fun q => q.index = p.index then without ps qs else p :: without ps qs

/-- Where `n` steps lead. -/
def reach (step : List Place → List Place) : Nat → List Place → List Place
  | 0, ps => ps
  | n + 1, ps => if ps.isEmpty then [] else reach step n (step ps)

/-- Where at most `n` steps lead, beside the places that are known.  A step is taken from the
latest of them only. -/
def reachUpTo (step : List Place → List Place) : Nat → List Place → List Place → List Place
  | 0, known, _ => known
  | n + 1, known, latest =>
    let new := without (step latest) known
    if new.isEmpty then known else reachUpTo step n (union known new) new

namespace Expr

/-- The places where a match that begins at one of the places can end.  More repetitions than
there are characters left lead nowhere new, so longer counts are cut. -/
def ends : Expr → List Place → List Place
  | empty, ps => ps
  | one c, ps => ps.filterMap (Place.advance? c)
  | look l, ps => ps.filter l.holds
  | seq a b, ps => b.ends (a.ends ps)
  | alt a b, ps => union (a.ends ps) (b.ends ps)
  | repeated a min max, ps =>
    let most := (ps.head?.elim 0 fun p => p.rest.length) + 1
    let more := match max with
      | some max => Nat.min (max - min) most
      | none => most
    let first := reach a.ends (Nat.min min most) ps
    reachUpTo a.ends more first first
  | group a, ps => a.ends ps

/-- The pattern matches somewhere in a text. -/
def isMatch (e : Expr) (text : String) : Bool := !(e.ends (places text)).isEmpty

/-- The patterns one after the other. -/
def concat : List Expr → Expr
  | [] => empty
  | e :: es => seq e (concat es)

end Expr
end Pattern
end Sift
