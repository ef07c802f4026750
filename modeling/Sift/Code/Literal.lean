import Sift.Pattern.Unicode.Property
import Sift.Pattern.Unicode.Ranges
import Sift.Text.Ascii

/-!
Words, numbers and quoted texts in program code, read from characters.

`literal?` reads a number or a quoted text with what is attached to it, and says of a plain text
what it stands for.
-/

namespace Sift
namespace Code

/-! ## Words -/

def inRanges (ranges : List (Nat × Nat)) (c : Char) : Bool :=
  ranges.any fun (lo, hi) => lo ≤ c.toNat && c.toNat ≤ hi

def wordStartRanges : List (Nat × Nat) :=
  (Pattern.Unicode.find? Pattern.Unicode.propertyTable "xids").getD []

def wordPartRanges : List (Nat × Nat) :=
  (Pattern.Unicode.find? Pattern.Unicode.propertyTable "xidc").getD []

def isWordStart (c : Char) : Bool :=
  c.isAlpha || c == '_' || (c.toNat ≥ 128 && inRanges wordStartRanges c)

def isWordPart (c : Char) : Bool :=
  c.isAlphanum || c == '_' || (c.toNat ≥ 128 && inRanges wordPartRanges c)

/-- The word at the start of a text, and the text behind it. -/
def splitWord? : List Char → Option (List Char × List Char)
  | [] => none
  | c :: cs =>
    if isWordStart c then some (c :: cs.takeWhile isWordPart, cs.dropWhile isWordPart) else none

/-- A text without the word at its start, if there is one. -/
def dropWord (cs : List Char) : List Char :=
  match splitWord? cs with
  | some (_, rest) => rest
  | none => cs

/-- The text behind some characters. -/
def after? : List Char → List Char → Option (List Char)
  | [], cs => some cs
  | _ :: _, [] => none
  | d :: ds, c :: cs => if c = d then after? ds cs else none

/-! ## Quoted texts -/

inductive LiteralKind where
  /-- A text, with the characters it stands for. -/
  | text (value : List Char)
  | integer
  | decimal
  /-- A character, a byte or a text of bytes. -/
  | other
  deriving DecidableEq, Repr

/-- Digits of the number of a character in curly brackets: `n` is the number so far, of `count`
digits. -/
def escapedNumber? (n count : Nat) : List Char → Option (Char × List Char)
  | [] => none
  | c :: cs =>
    if c = '_' ∧ 0 < count then escapedNumber? n count cs
    else if c = '\x7d' ∧ 0 < count then
      if h : n.isValidChar then some (Char.ofNatAux n h, cs) else none
    else if count = 6 then none
    else match Text.hexDigit? c with
      | some d => escapedNumber? (16 * n + d) (count + 1) cs
      | none => none

/-- The character that is written behind a backslash.  Characters are written with two digits only
up to 127, and bytes never in curly brackets. -/
def escaped? (bytes : Bool) : List Char → Option (Char × List Char)
  | 'n' :: cs => some ('\n', cs)
  | 'r' :: cs => some ('\r', cs)
  | 't' :: cs => some ('\t', cs)
  | '0' :: cs => some ('\x00', cs)
  | '\\' :: cs => some ('\\', cs)
  | '\x27' :: cs => some ('\x27', cs)
  | '"' :: cs => some ('"', cs)
  | 'x' :: c :: d :: cs => do
    let n := 16 * (← Text.hexDigit? c) + (← Text.hexDigit? d)
    if bytes || n < 128 then return (Char.ofNat n, cs) else none
  | 'u' :: '\x7b' :: cs => if bytes then none else escapedNumber? 0 0 cs
  | _ => none

/-- A text between quotation marks, after the first of them.  A backslash at the end of a line
joins the next line without its indent. -/
def quoted? (bytes : Bool) : Nat → List Char → Option (List Char × List Char)
  | 0, _ => none
  | _ + 1, [] => none
  | _ + 1, '"' :: cs => some ([], cs)
  | n + 1, '\r' :: '\n' :: cs => do
    let (value, rest) ← quoted? bytes n cs
    return ('\n' :: value, rest)
  | n + 1, '\\' :: '\n' :: cs =>
    quoted? bytes n (cs.dropWhile fun c => c == ' ' || c == '\t' || c == '\n' || c == '\r')
  | n + 1, '\\' :: cs => do
    let (c, cs) ← escaped? bytes cs
    let (value, rest) ← quoted? bytes n cs
    return (c :: value, rest)
  | n + 1, c :: cs =>
    if c = '\r' ∨ bytes ∧ 128 ≤ c.toNat then none
    else do
      let (value, rest) ← quoted? bytes n cs
      return (c :: value, rest)

/-- A text up to its closing marks, without escapes. -/
def verbatim? (closing : List Char) : List Char → Option (List Char × List Char)
  | [] => none
  | c :: cs =>
    match after? closing (c :: cs) with
    | some rest => some ([], rest)
    | none =>
      if c = '\r' ∧ cs.head? ≠ some '\n' then none
      else do
        let (value, rest) ← verbatim? closing cs
        return (if c = '\r' then value else c :: value, rest)

/-- A text without escapes, from the number signs in front of its quotation mark on. -/
def raw? (cs : List Char) : Option (List Char × List Char) :=
  let signs := cs.takeWhile (· == '#')
  match cs.drop signs.length with
  | '"' :: rest => if signs.length ≤ 255 then verbatim? ('"' :: signs) rest else none
  | _ => none

/-- A single character in apostrophes, after the first of them. -/
def quotedChar? (bytes : Bool) (cs : List Char) : Option (List Char) := do
  let rest ← match cs with
    | '\\' :: cs => (escaped? bytes cs).map Prod.snd
    | c :: cs => if bytes ∧ 128 ≤ c.toNat then none else some cs
    | [] => none
  after? ['\x27'] rest

/-- A text of bytes or of characters, after the letter that says so. -/
def quotedOrRaw? (bytes : Bool) (cs : List Char) : Option (List Char) :=
  match cs with
  | '"' :: rest => (quoted? bytes (rest.length + 1) rest).map Prod.snd
  | 'r' :: rest => (raw? rest).map Prod.snd
  | _ => none

/-! ## Numbers -/

def isDigitOrGap (c : Char) : Bool := c.isDigit || c == '_'

/-- The text behind an exponent, after its letter. -/
def exponent? (cs : List Char) : Option (List Char) :=
  let cs := cs.dropWhile (· == '_')
  let cs := match cs with
    | '+' :: rest => rest
    | '-' :: rest => rest
    | _ => cs
  if (cs.takeWhile isDigitOrGap).any Char.isDigit then some (cs.dropWhile isDigitOrGap) else none

/-- The text behind a number that has a point or an exponent.  The point is not one of a range
or in front of a name. -/
def decimal? (cs : List Char) : Option (List Char) := do
  guard (cs.head?.any Char.isDigit)
  let rest := cs.dropWhile isDigitOrGap
  let (point, rest) ← match rest with
    | '.' :: rest =>
      if rest.head?.any fun c => c == '.' || isWordStart c then none
      else some (true, rest.dropWhile isDigitOrGap)
    | _ => some (false, rest)
  let whole := if point then some rest else none
  match rest with
  | 'e' :: more => (exponent? more).or whole
  | 'E' :: more => (exponent? more).or whole
  | _ => whole

/-- The text behind a whole number, which may be written to the base 2, 8 or 16. -/
def whole? (cs : List Char) : Option (List Char) :=
  let (base, digits) := match cs with
    | '0' :: 'x' :: rest => (16, rest)
    | '0' :: 'o' :: rest => (8, rest)
    | '0' :: 'b' :: rest => (2, rest)
    | _ => (10, cs)
  let run := digits.takeWhile fun c =>
    isDigitOrGap c || (base == 16 && (Text.hexDigit? c).isSome)
  if run.any (fun c => c.isDigit && base ≤ c.toNat - '0'.toNat) then none
  else if base = 10 ∧ run.head? = some '_' ∨ run.all (· == '_') then none
  else some (digits.drop run.length)

/-- The text behind the word that may be attached to a number. -/
def numberSuffix? (cs : List Char) : Option (List Char) :=
  let rest := dropWord cs
  if rest.head?.any isWordPart then none else some rest

/-- A number or quoted text at the start of a text, and the text behind it. -/
def literal? (cs : List Char) : Option (LiteralKind × List Char) :=
  let other (rest : Option (List Char)) := rest.map fun rest => (LiteralKind.other, dropWord rest)
  let number : Option (LiteralKind × List Char) :=
    match decimal? cs |>.bind numberSuffix? with
    | some rest => some (.decimal, rest)
    | none => (whole? cs |>.bind numberSuffix?).map (.integer, ·)
  let text (read : Option (List Char × List Char)) :=
    read.map fun (value, rest) => (LiteralKind.text value, dropWord rest)
  match cs with
  | '"' :: rest => text (quoted? false (rest.length + 1) rest)
  | 'r' :: rest => text (raw? rest)
  | 'b' :: '\x27' :: rest => other (quotedChar? true rest)
  | 'b' :: rest => other (quotedOrRaw? true rest)
  | 'c' :: rest => other (quotedOrRaw? false rest)
  | '\x27' :: rest => other (quotedChar? false rest)
  | _ => number

end Code
end Sift
