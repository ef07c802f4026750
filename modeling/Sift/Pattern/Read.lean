import Sift.Pattern.Basic
import Sift.Pattern.Flags
import Sift.Pattern.Scan
import Sift.Pattern.Size
import Sift.Pattern.Unicode.Name

/-!
Reading patterns.

A pattern is read from left to right.  The state holds the flags that are in force, what was read
of the group that is open, the groups around it, and the bracketed classes that are open.  Each
step takes at least one character, so reading ends with the text.

Beside each part the state holds how deep it is nested.  `parse` reads a text as a pattern that is
not nested too deep, and `read` also refuses patterns that are too large.
-/

namespace Sift
namespace Pattern

/-- What stands for one character or one condition. -/
inductive Atom where
  /-- A character; `isByte` if it is written as a byte of two hexadecimal digits. -/
  | char (c : Char) (isByte : Bool)
  | cls (c : Class)
  | look (l : Look)

/-- How two classes within one bracket are joined. -/
inductive SetOp where
  | inter
  | diff
  | symmDiff

/-- What stands before the last operator of a class. -/
structure Operand where
  items : Class
  op : SetOp
  depth : Nat

/-- An open bracketed class. -/
structure OpenClass where
  negated : Bool
  pending : Option Operand
  /-- What was read since the last operator. -/
  items : Class
  /-- How many items that are. -/
  count : Nat
  /-- The depth of the deepest of them. -/
  inner : Nat

/-- A part of a branch and its depth: a part by itself has none, and each group, repetition,
bracket, operator, sequence and choice adds one. -/
structure Part where
  expr : Expr
  depth : Nat

/-- An open group: the branches that are closed, as one part, and the parts of the last branch,
the latest first.  A part without an expression sets flags and cannot be repeated. -/
structure Level where
  /-- The depth is that of the deepest branch. -/
  branches : Option Part
  parts : List (Option Part)
  /-- Whether the match of the group is kept. -/
  isKept : Bool

structure State where
  flags : Flags
  level : Level
  /-- The groups around the open one, each with the flags to go back to. -/
  outer : List (Flags × Level)
  /-- The names of groups so far. -/
  names : List (List Char)
  /-- The open classes, the innermost first. -/
  classes : List OpenClass

namespace Level

def empty (isKept : Bool) : Level := ⟨none, [], isKept⟩

def add (l : Level) (p : Part) : Level := { l with parts := some p :: l.parts }

/-- The last branch. -/
def branch (l : Level) : Part :=
  let parts := l.parts.reverse.filterMap id
  let inner := parts.foldl (fun depth p => Nat.max depth p.depth) 0
  ⟨Expr.concat (parts.map Part.expr), if 2 ≤ l.parts.length then inner + 1 else inner⟩

/-- All branches; the depth is that of the deepest. -/
def joined (l : Level) : Part :=
  match l.branches with
  | none => l.branch
  | some p => ⟨.alt p.expr l.branch.expr, Nat.max p.depth l.branch.depth⟩

/-- What stands in the group. -/
def close (l : Level) : Part :=
  if l.branches.isSome then ⟨l.joined.expr, l.joined.depth + 1⟩ else l.joined

/-- Begins a new branch. -/
def nextBranch (l : Level) : Level := ⟨some l.joined, [], l.isKept⟩

end Level

namespace State

def initial : State := ⟨.initial, .empty false, [], [], []⟩

def add (st : State) (p : Part) : State := { st with level := st.level.add p }

/-- Adds an expression that has no parts. -/
def addSimple (st : State) (e : Expr) : State := st.add ⟨e, 0⟩

end State

/-! ## Classes and characters under flags -/

/-- The class with the variants of its characters, if case is ignored. -/
def foldCase (f : Flags) (c : Class) : Class :=
  if f.ignoreCase then (if f.unicode then .anyCase c else .anyAsciiCase c) else c

/-- The class, or all that is not in it.  Without Unicode a class is one of bytes and may only
hold those that are characters by themselves, so it cannot be turned over. -/
def negateIf (f : Flags) (negated : Bool) (c : Class) : Except Fault Class :=
  if negated ∧ ¬ f.unicode then .error .notText else .ok (Class.negatedIf negated c)

/-- A character as an expression. -/
def charExpr (f : Flags) (c : Char) (isByte : Bool) : Except Fault Expr :=
  if ¬ f.unicode ∧ isByte ∧ 0x80 ≤ c.toNat then .error .notText
  else if f.ignoreCase ∧ (f.unicode ∨ c.toNat < 0x80) then .ok (.one (foldCase f (.single c)))
  else .ok (.one (.single c))

def atomExpr (f : Flags) : Atom → Except Fault Expr
  | .char c isByte => charExpr f c isByte
  | .cls c => .ok (.one c)
  | .look l => .ok (.look l)

/-- Any character but the end of a line. -/
def dotExpr (f : Flags) : Except Fault Expr :=
  if ¬ f.unicode then .error .notText
  else if f.dotAll then .ok (.one .all)
  else if f.crlf then .ok (.one (.compl (.union (.single '\n') (.single '\r'))))
  else .ok (.one (.compl (.single '\n')))

def lineStart (f : Flags) : Look :=
  if f.multiLine then (if f.crlf then .lineStartCR else .lineStart) else .textStart

def lineEnd (f : Flags) : Look :=
  if f.multiLine then (if f.crlf then .lineEndCR else .lineEnd) else .textEnd

/-! ## Escapes -/

/-- A class by the name of a property, after the letter `p` or `P`. -/
def propertyClass (f : Flags) (negated : Bool) (cs : List Char) :
    Except Fault (Class × List Char) := do
  unless f.unicode do throw .notText
  let ((found, negated), rest) ←
    match skip f.verbose cs with
    | [] => throw .badEscape
    | '\\' :: _ => throw .unknownClass
    | '\x7b' :: rest =>
      match untilBrace f.verbose false rest with
      | none => throw .badEscape
      | some (body, rest) => pure (named body negated, rest)
    | c :: rest =>
      pure ((Class.unicodeNamed? (String.ofList [c]), negated), skip f.verbose rest)
  match found with
  | some c => return (Class.negatedIf negated (foldCase f c), rest)
  | none => throw .unknownClass
where
  /-- The class of a name, or of a property and its value with a mark between them. -/
  named (body : List Char) (negated : Bool) : Option Class × Bool :=
    match cut ['!', '='] body with
    | some (p, v) => (Class.unicodeValued? p v, !negated)
    | none =>
      match (cut [':'] body).or (cut ['='] body) with
      | some (p, v) => (Class.unicodeValued? p v, negated)
      | none => (Class.unicodeNamed? (String.ofList body), negated)
  /-- The text before and after the first place where the mark stands. -/
  cut (mark : List Char) : List Char → Option (String × String)
    | [] => none
    | c :: cs =>
      if mark.isPrefixOf (c :: cs) then some ("", String.ofList ((c :: cs).drop mark.length))
      else (cut mark cs).map fun (p, v) => (String.ofList (c :: p.toList), v)

/-- The condition that is named between braces after `\b`.  Other braces are left alone, since
they may be a repetition. -/
def namedBoundary (f : Flags) (cs : List Char) : Except Fault (Look × List Char) :=
  let plain := (Look.wordBoundary f.unicode, cs)
  match cs with
  | '\x7b' :: rest =>
    match skip f.verbose rest with
    | [] => .error .badEscape
    | c :: _ =>
      if c.isAlpha ∨ c = '-' then
        match untilBrace f.verbose false rest with
        | some (body, rest) =>
          match String.ofList body with
          | "start" => .ok (.wordStart f.unicode, rest)
          | "end" => .ok (.wordEnd f.unicode, rest)
          | "start-half" => .ok (.wordStartHalf f.unicode, rest)
          | "end-half" => .ok (.wordEndHalf f.unicode, rest)
          | _ => .error .badEscape
        | none => .error .badEscape
      else .ok plain
  | _ => .ok plain

/-- ASCII characters without a meaning may be escaped too, except letters, digits and angles. -/
def isEscapable (c : Char) : Bool :=
  c.toNat < 0x80 && !c.isAlphanum && c ≠ '<' && c ≠ '>'

/-- What stands after a backslash. -/
def escaped (f : Flags) : List Char → Except Fault (Atom × List Char)
  | [] => .error .badEscape
  | c :: rest =>
    let char (n : Nat) : Except Fault (Atom × List Char) := .ok (.char (Char.ofNat n) false, rest)
    let cls (negated : Bool) (a : Class) : Except Fault (Atom × List Char) := do
      return (.cls (← negateIf f negated a), rest)
    let look (l : Look) : Except Fault (Atom × List Char) := .ok (.look l, rest)
    if isEscapable c then .ok (.char c false, rest)
    else if c.isDigit then .error .backReference
    else
      match c with
      | 'x' => do
        let (d, after) ← hexChar f.verbose 2 rest
        return (.char d ((skip f.verbose rest).head? ≠ some '\x7b'), after)
      | 'u' => do
        let (d, rest) ← hexChar f.verbose 4 rest
        return (.char d false, rest)
      | 'U' => do
        let (d, rest) ← hexChar f.verbose 8 rest
        return (.char d false, rest)
      | 'p' => do
        let (a, rest) ← propertyClass f false rest
        return (.cls a, rest)
      | 'P' => do
        let (a, rest) ← propertyClass f true rest
        return (.cls a, rest)
      | 'd' => cls false (.digits f.unicode)
      | 'D' => cls true (.digits f.unicode)
      | 's' => cls false (.blanks f.unicode)
      | 'S' => cls true (.blanks f.unicode)
      | 'w' => cls false (.words f.unicode)
      | 'W' => cls true (.words f.unicode)
      | 'a' => char 0x7
      | 'f' => char 0xc
      | 't' => char 0x9
      | 'n' => char 0xa
      | 'r' => char 0xd
      | 'v' => char 0xb
      | 'A' => look .textStart
      | 'z' => look .textEnd
      | 'b' => do
        let (l, rest) ← namedBoundary f rest
        return (.look l, rest)
      | 'B' => look (.notWordBoundary f.unicode)
      | '<' => look (.wordStart f.unicode)
      | '>' => look (.wordEnd f.unicode)
      | _ => .error .badEscape

/-! ## Bracketed classes -/

namespace OpenClass

/-- Adds an item with its depth. -/
def add (o : OpenClass) (c : Class) (depth : Nat) : OpenClass :=
  { o with items := o.items.union c, count := o.count + 1, inner := Nat.max o.inner depth }

/-- All that was read, with the pending operator applied. -/
def joined (f : Flags) (o : OpenClass) : Class :=
  match o.pending with
  | none => o.items
  | some left =>
    let first := foldCase f left.items
    let second := foldCase f o.items
    match left.op with
    | .inter => first.inter second
    | .diff => first.diff second
    | .symmDiff => first.symmDiff second

/-- The depth of all that was read. -/
def depth (o : OpenClass) : Nat :=
  let items := if 2 ≤ o.count then o.inner + 1 else o.inner
  match o.pending with
  | none => items
  | some left => Nat.max left.depth items + 1

/-- Puts all that was read on the left of an operator. -/
def operator (f : Flags) (o : OpenClass) (op : SetOp) : OpenClass :=
  ⟨o.negated, some ⟨o.joined f, op, o.depth⟩, .none, 0, 0⟩

/-- The class at its closing bracket.  Variants come in before the class is turned over. -/
def close (f : Flags) (o : OpenClass) : Except Fault Class :=
  negateIf f o.negated (foldCase f (o.joined f))

end OpenClass

/-- What stands first in a bracketed class: a caret, minus signs, or a closing bracket that is
meant as a character. -/
def openClass (f : Flags) (cs : List Char) : OpenClass × List Char :=
  let cs := skip f.verbose cs
  let (negated, cs) := match cs with
    | '^' :: rest => (true, skip f.verbose rest)
    | cs => (false, cs)
  let start : OpenClass := ⟨negated, none, .none, 0, 0⟩
  match cs with
  | ']' :: rest => (start.add (.single ']') 0, rest)
  | cs => takeMinus f.verbose false start cs
where
  /-- Minus signs at the start, with what says nothing behind them.  Comments are skipped. -/
  takeMinus (verbose : Bool) : Bool → OpenClass → List Char → OpenClass × List Char
    | _, o, [] => (o, [])
    | true, o, c :: cs => takeMinus verbose (c ≠ '\n') o cs
    | false, o, c :: cs =>
      if c = '-' then takeMinus verbose false (o.add (.single '-') 0) cs
      else if verbose && Text.isBlank c then takeMinus verbose false o cs
      else if verbose && c = '#' then takeMinus verbose true o cs
      else (o, c :: cs)

/-- A class by its ASCII name, after an opening bracket: `:name:]` or `:^name:]`. -/
def asciiClass? (f : Flags) (cs : List Char) : Option (Except Fault Class × List Char) :=
  match cs with
  | ':' :: cs =>
    let (negated, cs) := match cs with
      | '^' :: rest => (true, rest)
      | cs => (false, cs)
    match cs.dropWhile (· ≠ ':') with
    | ':' :: ']' :: rest =>
      (Class.asciiNamed? (String.ofList (cs.takeWhile (· ≠ ':')))).map fun c =>
        (negateIf f negated (foldCase f c), rest)
    | _ => none
  | _ => none

/-- One item of a class: a character, or an escape. -/
def classItem (f : Flags) (c : Char) (cs : List Char) : Except Fault (Atom × List Char) :=
  if c = '\\' then escaped f cs else .ok (.char c false, cs)

/-- The code point that a character adds to a class. -/
def classChar (f : Flags) : Atom → Except Fault Char
  | .char c _ => if ¬ f.unicode ∧ 0x80 ≤ c.toNat then .error .notText else .ok c
  | _ => .error .badRange

/-- The class that an item stands for. -/
def itemClass (f : Flags) (a : Atom) : Except Fault Class :=
  match a with
  | .cls c => .ok c
  | .look _ => .error .badEscape
  | a => .single <$> classChar f a

/-- The character that is looked for after a minus sign: in verbose patterns white space and one
mark of a comment are passed over. -/
def peek (verbose : Bool) (cs : List Char) : Option Char :=
  if verbose then
    let rest := match cs.dropWhile Text.isBlank with
      | '#' :: rest => rest.dropWhile Text.isBlank
      | rest => rest
    rest.head?.or cs.head?
  else cs.head?

/-- An item or a range of characters.  A minus sign in front of a closing bracket or of another
minus sign does not make a range. -/
def classRange (f : Flags) (c : Char) (cs : List Char) : Except Fault (Class × List Char) := do
  let (first, rest) ← classItem f c cs
  match skip f.verbose rest with
  | '-' :: rest' =>
    if peek f.verbose rest' ∈ [some ']', some '-'] then
      return (← itemClass f first, skip f.verbose rest)
    match skip f.verbose rest' with
    | d :: rest => do
      let (last, rest) ← classItem f d rest
      let low ← classChar f first
      let high ← classChar f last
      if low ≤ high then return (.range low.toNat high.toNat, rest) else throw .badRange
    | [] => throw .classNotClosed
  | rest => return (← itemClass f first, rest)

/-- Closes the innermost class: into the class around it, or into the open group. -/
def closeClass (st : State) : Except Fault State :=
  match st.classes with
  | [] => .error .classNotClosed
  | [o] => do
    return { st with classes := [] }.add ⟨.one (← o.close st.flags), o.depth + 1⟩
  | o :: around :: more => do
    return { st with classes := around.add (← o.close st.flags) (o.depth + 1) :: more }

/-- One step within the open class `o`; `c` is the next character. -/
def classStep (st : State) (o : OpenClass) (more : List OpenClass) (c : Char) (cs : List Char) :
    Except Fault (State × List Char) :=
  let update (o : OpenClass) (rest : List Char) : Except Fault (State × List Char) :=
    .ok ({ st with classes := o :: more }, rest)
  let item : Except Fault (State × List Char) := do
    let (a, rest) ← classRange st.flags c cs
    update (o.add a 0) rest
  match c, cs with
  | '[', cs =>
    match asciiClass? st.flags cs with
    | some (a, rest) => do update (o.add (← a) 0) rest
    | none =>
      let (inner, rest) := openClass st.flags cs
      .ok ({ st with classes := inner :: o :: more }, rest)
  | ']', cs => do return (← closeClass st, cs)
  | '&', '&' :: rest => update (o.operator st.flags .inter) rest
  | '-', '-' :: rest => update (o.operator st.flags .diff) rest
  | '~', '~' :: rest => update (o.operator st.flags .symmDiff) rest
  | _, _ => item

/-! ## Groups and repetitions -/

/-- Repeats the last part. -/
def repeatLast (st : State) (min : Nat) (max : Option Nat) : Except Fault State :=
  match st.level.parts with
  | some p :: parts =>
    let part := some ⟨.repeated p.expr min max, p.depth + 1⟩
    .ok { st with level := { st.level with parts := part :: parts } }
  | _ => .error .nothingToRepeat

/-- A question mark after a repetition changes its preference only. -/
def skipLazy : List Char → List Char
  | '?' :: rest => rest
  | rest => rest

/-- Letters may begin the name of a group; later digits, dots and brackets may follow. -/
def isNameChar (first : Bool) (c : Char) : Bool :=
  let isOf (lines : List String) := (Class.ranges (Unicode.readRanges lines)).mem c.toNat
  c = '_' || isOf Unicode.nameLetters ||
    (!first && (c = '.' || c = '[' || c = ']' || isOf Unicode.nameDigits))

/-- Opens a group under the flags given. -/
def openGroup (st : State) (flags : Flags) (isKept : Bool) : State :=
  { st with flags, level := .empty isKept, outer := (st.flags, st.level) :: st.outer }

/-- Opens a group with a name, which ends with a closing angle. -/
def openNamed (st : State) (cs : List Char) : Except Fault (State × List Char) :=
  let name := cs.takeWhile (· ≠ '>')
  match cs.dropWhile (· ≠ '>'), name with
  | '>' :: rest, c :: more =>
    if isNameChar true c && more.all (isNameChar false) && !st.names.contains name then
      .ok ({ openGroup st st.flags true with names := name :: st.names }, rest)
    else .error .badGroupName
  | _, _ => .error .badGroupName

/-- What follows an opening parenthesis. -/
def group (st : State) (cs : List Char) : Except Fault (State × List Char) :=
  match skip st.flags.verbose cs with
  | '?' :: 'P' :: '<' :: rest => openNamed st rest
  | '?' :: '=' :: _ | '?' :: '!' :: _ => .error .lookAround
  | '?' :: '<' :: '=' :: _ | '?' :: '<' :: '!' :: _ => .error .lookAround
  | '?' :: '<' :: rest => openNamed st rest
  | '?' :: rest => do
    let letters := rest.takeWhile fun c => c ≠ ':' && c ≠ ')'
    let flags ← st.flags.apply letters
    match rest.drop letters.length with
    | ':' :: rest => return (openGroup st flags false, rest)
    | ')' :: rest =>
      if letters = [] then throw .nothingToRepeat
      else return ({ st with flags, level.parts := none :: st.level.parts }, rest)
    | _ => throw .badFlags
  | rest => .ok (openGroup st st.flags true, rest)

/-- Closes the open group. -/
def closeGroup (st : State) : Except Fault State :=
  match st.outer with
  | [] => .error .groupNotOpened
  | (flags, level) :: outer =>
    let inside := st.level.close
    let expr := if st.level.isKept then .group inside.expr else inside.expr
    .ok { st with flags, level := level.add ⟨expr, inside.depth + 1⟩, outer }

/-- One step outside classes; `c` is the next character. -/
def plainStep (st : State) (c : Char) (cs : List Char) : Except Fault (State × List Char) := do
  let f := st.flags
  match c with
  | '(' => group st cs
  | ')' => return (← closeGroup st, cs)
  | '|' => return ({ st with level := st.level.nextBranch }, cs)
  | '[' =>
    let (o, rest) := openClass f cs
    return ({ st with classes := [o] }, rest)
  | '?' => return (← repeatLast st 0 (some 1), skipLazy cs)
  | '*' => return (← repeatLast st 0 none, skipLazy cs)
  | '+' => return (← repeatLast st 1 none, skipLazy cs)
  | '\x7b' =>
    let ((min, max), rest) ← bounds f.verbose cs
    return (← repeatLast st min max, skipLazy (skip f.verbose rest))
  | '.' => return (st.addSimple (← dotExpr f), cs)
  | '^' => return (st.addSimple (.look (lineStart f)), cs)
  | '$' => return (st.addSimple (.look (lineEnd f)), cs)
  | '\\' =>
    let (a, rest) ← escaped f cs
    return (st.addSimple (← atomExpr f a), rest)
  | c => return (st.addSimple (← charExpr f c false), cs)

/-- One step; `c` is the next character. -/
def step (st : State) (c : Char) (cs : List Char) : Except Fault (State × List Char) :=
  if st.flags.verbose ∧ Text.isBlank c then .ok (st, cs)
  else if st.flags.verbose ∧ c = '#' then .ok (st, (cs.dropWhile (· ≠ '\n')).drop 1)
  else
    match st.classes with
    | o :: more => classStep st o more c cs
    | [] => plainStep st c cs

/-- How deep a pattern may be nested. -/
def depthLimit : Nat := 250

/-- The expression of a text that was read to its end. -/
def finish (st : State) : Except Fault Expr :=
  if ¬ st.classes.isEmpty then .error .classNotClosed
  else if ¬ st.outer.isEmpty then .error .groupNotClosed
  else if depthLimit < st.level.close.depth then .error .tooDeep
  else .ok st.level.close.expr

/-- Reads the rest of a text.  What a step leaves is the end of what it was given. -/
def parseFrom (st : State) : List Char → Except Fault Expr
  | [] => finish st
  | c :: cs => do
    let (st, rest) ← step st c cs
    parseFrom st (cs.drop (cs.length - rest.length))
termination_by cs => cs.length
decreasing_by
  simp only [List.length_drop, List.length_cons]
  omega

/-- Reads a text as a pattern of any size. -/
def parse (text : String) : Except Fault Expr := parseFrom .initial text.toList

/-- Reads a text as a pattern. -/
def read (text : String) : Except Fault Expr := do
  let e ← parse text
  if e.fits then return e else throw .tooLarge

end Pattern
end Sift
