import Sift.Pattern.Basic
import Sift.Pattern.Extent

/-!
How large patterns are.

A pattern is as large as an automaton that matches it, in bytes.  Two automata count, one that
reads a text forwards and one that reads it backwards; neither is built.  `Expr.fits` says that
both are within the limit, and `Expr.size` finds their sizes from those of the parts.

An automaton has states of a fixed size.  A state with several ways on takes room for each of
them, and so does a state for a set of bytes.
-/

namespace Sift
namespace Pattern

/-- The sizes of the automata that read forwards and backwards. -/
structure Size where
  forward : Nat
  backward : Nat

namespace Size

def both (n : Nat) : Size := ⟨n, n⟩

def add (a b : Size) : Size := ⟨a.forward + b.forward, a.backward + b.backward⟩

def times (n : Nat) (a : Size) : Size := ⟨n * a.forward, n * a.backward⟩

end Size

/-- The size of a state. -/
def stateSize : Nat := 32

/-- The size of a state with `n` ways on. -/
def forkSize (n : Nat) : Nat := stateSize + 4 * n

/-- The size of a state for `n` ranges of bytes. -/
def bytesSize (n : Nat) : Nat := stateSize + 8 * n

/-! ## Classes -/

/-- The sequences without their first parts, in groups of neighbours that begin alike. -/
def tailGroups {α : Type} [DecidableEq α] : List (List α) → List (List (List α))
  | [] => []
  | [] :: rest => tailGroups rest
  | (x :: xs) :: rest =>
    match rest, tailGroups rest with
    | (y :: _) :: _, g :: gs => if x = y then (xs :: g) :: gs else [xs] :: g :: gs
    | _, gs => [xs] :: gs

/-- What can still be read after each beginning of the sequences; `n` is greater than their
lengths. -/
def residuals {α : Type} [DecidableEq α] : Nat → List (List α) → List (List (List α))
  | 0, _ => []
  | n + 1, seqs =>
    match tailGroups seqs with
    | [] => []
    | groups => seqs :: groups.flatMap (residuals n)

/-- Read forwards, beginnings after which the same can be read share a state. -/
def forwardClassSize (seqs : List (List (Nat × Nat))) : Nat :=
  (residuals 5 seqs).eraseDups.foldl
    (fun size seqs => size + bytesSize (tailGroups seqs).length) stateSize

/-- The length of the longest common beginning. -/
def commonLength {α : Type} [DecidableEq α] : List α → List α → Nat
  | x :: xs, y :: ys => if x = y then commonLength xs ys + 1 else 0
  | _, _ => 0

/-- How many different beginnings the sequences have that do not begin the one before. -/
def beginnings {α : Type} [DecidableEq α] : List α → List (List α) → Nat
  | _, [] => 0
  | before, seq :: rest => (seq.length - commonLength before seq) + beginnings seq rest

/-- Read backwards, each beginning of a sequence has a state. -/
def backwardClassSize (seqs : List (List (Nat × Nat))) : Nat :=
  forkSize seqs.length + stateSize * (1 + beginnings [] seqs)

/-- The size of the class with these ranges in normal form. -/
def classSize (rs : List (Nat × Nat)) : Size :=
  if rs.all fun r => r.2 < 0x80 then .both (stateSize + bytesSize rs.length)
  else
    let seqs := rs.flatMap encodings
    ⟨forwardClassSize seqs, backwardClassSize seqs⟩

/-- The size of a text: a state for each byte. -/
def textSize (text : List Char) : Size :=
  .both (stateSize * text.foldl (fun n c => n + c.utf8Size) 0)

/-! ## Parts -/

/-- What a part of a pattern is, as far as it matters to alternatives. -/
inductive Form where
  | empty
  | text (cs : List Char)
  | chars (rs : List (Nat × Nat))
  | other

structure Branch where
  form : Form
  size : Size

/-- What must be known of a part to find the size of the whole. -/
structure Footprint where
  /-- The alternatives; a part without a choice has one. -/
  branches : List Branch
  /-- Each match takes a character. -/
  takesSome : Bool
  /-- No match takes a character. -/
  takesNone : Bool

namespace Form

/-- The code point, if the part is a single character. -/
def single? : Form → Option Nat
  | text [c] => some c.toNat
  | _ => none

def ranges? : Form → Option (List (Nat × Nat))
  | chars rs => some rs
  | _ => none

/-- The bytes of the text, if the part is a text. -/
def bytes? : Form → Option (List UInt8)
  | text cs => some (cs.flatMap String.utf8EncodeChar)
  | _ => none

end Form

/-- The size of a tree of texts, without its last state: each node with a text that goes on has
one state for the bytes and one for the ways on.  The texts are shorter than `n`. -/
def treeSize : Nat → List (List UInt8) → Nat
  | 0, _ => 0
  | n + 1, texts =>
    let heads := (texts.filterMap List.head?).eraseDups
    if heads.isEmpty then 0
    else
      let bytes := if heads.length = 1 then stateSize else bytesSize heads.length
      let ways := if texts.any List.isEmpty then 2 else 1
      let behind (h : UInt8) := texts.filterMap fun t =>
        if t.head? = some h then some t.tail else none
      heads.foldl (fun size h => size + treeSize n (behind h)) (bytes + forkSize ways)

/-- The size of a choice: alternatives that are single characters or classes are one class, texts
are a tree, and all others have a state in front of them and one behind them. -/
def choiceSize (branches : List Branch) : Size :=
  match branches.mapM (·.form.single?), branches.mapM (·.form.ranges?),
      branches.mapM (·.form.bytes?) with
  | some codes, _, _ => classSize (normalRanges (codes.map fun c => (c, c)))
  | none, some ranges, _ => classSize (normalRanges ranges.flatten)
  | none, none, some texts =>
    let n := texts.foldl (fun n t => Nat.max n t.length) 0 + 1
    ⟨stateSize + treeSize n texts, stateSize + treeSize n (texts.map List.reverse)⟩
  | none, none, none =>
    branches.foldl (fun size b => size.add b.size) (.both (forkSize branches.length + stateSize))

namespace Footprint

def one (form : Form) (size : Size) (takesSome takesNone : Bool) : Footprint :=
  ⟨[⟨form, size⟩], takesSome, takesNone⟩

def empty : Footprint := one .empty (.both stateSize) false true

def size (p : Footprint) : Size :=
  match p.branches with
  | [b] => b.size
  | branches => choiceSize branches

def isEmpty (p : Footprint) : Bool :=
  match p.branches with
  | [⟨.empty, _⟩] => true
  | _ => false

/-- A character by itself is a text. -/
def ofClass (c : Class) : Footprint :=
  match c.extent with
  | [(first, last)] =>
    if first = last then
      one (.text [Char.ofNat first]) (textSize [Char.ofNat first]) true false
    else one (.chars [(first, last)]) (classSize [(first, last)]) true false
  | [] => one (.chars []) (classSize []) false false
  | rs => one (.chars rs) (classSize rs) true false

/-- Parts without anything in them take no room in a sequence, and texts are joined. -/
def seq (a b : Footprint) : Footprint :=
  if a.isEmpty then b
  else if b.isEmpty then a
  else
    let form : Form := match a.branches, b.branches with
      | [⟨.text cs, _⟩], [⟨.text ds, _⟩] => .text (cs ++ ds)
      | _, _ => .other
    one form (a.size.add b.size) (a.takesSome || b.takesSome) (a.takesNone && b.takesNone)

/-- A choice within a choice is a part of it. -/
def alt (a b : Footprint) : Footprint :=
  ⟨a.branches ++ b.branches, a.takesSome && b.takesSome, a.takesNone && b.takesNone⟩

/-- The part is copied for each repetition that has to be told apart. -/
def repeated (a : Footprint) (min : Nat) (max : Option Nat) : Footprint :=
  let most := if a.takesNone then some ((max.getD 1).min 1) else max
  let least := if a.takesNone then min.min 1 else min
  let made (size : Nat) (copies : Nat) : Footprint :=
    one .other ((a.size.times copies).add (.both size)) (a.takesSome && 0 < least) a.takesNone
  match least, most with
  | _, some 0 => empty
  | 1, some 1 => a
  | 0, some 1 => made (forkSize 2 + stateSize) 1
  | 0, none => if a.takesSome then made (forkSize 2) 1 else made (2 * forkSize 2 + stateSize) 1
  | least, none => made (forkSize 2) least
  | least, some most =>
    if most ≤ least then made 0 least
    else
      let first := if least = 0 then stateSize else 0
      made (first + stateSize + (most - least) * forkSize 2) most

/-- Where a group begins and ends is kept when a text is read forwards. -/
def group (a : Footprint) : Footprint :=
  one .other (a.size.add ⟨2 * stateSize, 0⟩) a.takesSome a.takesNone

end Footprint

namespace Expr

def footprint : Expr → Footprint
  | empty => .empty
  | one c => .ofClass c
  | look _ => .one .other (.both stateSize) false true
  | seq a b => a.footprint.seq b.footprint
  | alt a b => a.footprint.alt b.footprint
  | repeated a min max => a.footprint.repeated min max
  | group a => a.footprint.group

/-- The size of a pattern, with the states that let a match begin anywhere. -/
def size (e : Expr) : Size :=
  (e.footprint.group.size).add (.both (forkSize 2 + stateSize + bytesSize 1 + stateSize))

/-- Ten mebibytes. -/
def sizeLimit : Nat := 10 * 1024 * 1024

/-- The pattern is not too large. -/
def fits (e : Expr) : Bool := e.size.forward ≤ sizeLimit && e.size.backward ≤ sizeLimit

end Expr
end Pattern
end Sift
