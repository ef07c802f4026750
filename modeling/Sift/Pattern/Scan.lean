import Sift.Pattern.Fault
import Sift.Text.Ascii
import Sift.Text.Blank

/-!
The small parts of written patterns: spaces and comments, numbers, names.

In verbose patterns white space and comments, which run from `#` to the end of the line, say
nothing.  Each function returns what it read and the rest of the text.
-/

namespace Sift
namespace Pattern

/-- The text without leading white space and comments. -/
def skipVerbose : Bool → List Char → List Char
  | _, [] => []
  | true, c :: cs => skipVerbose (c ≠ '\n') cs
  | false, c :: cs =>
    if Text.isBlank c then skipVerbose false cs
    else if c = '#' then skipVerbose true cs
    else c :: cs

/-- Skips what says nothing in the mode given. -/
def skip (verbose : Bool) (cs : List Char) : List Char :=
  if verbose then skipVerbose false cs else cs

/-- What stands in front of a closing brace, without what says nothing. -/
def untilBrace (verbose : Bool) : Bool → List Char → Option (List Char × List Char)
  | _, [] => none
  | true, c :: cs => untilBrace verbose (c ≠ '\n') cs
  | false, c :: cs =>
    if verbose && Text.isBlank c then untilBrace verbose false cs
    else if verbose && c = '#' then untilBrace verbose true cs
    else if c = '\x7d' then some ([], cs)
    else (untilBrace verbose false cs).map fun (body, rest) => (c :: body, rest)

/-- A run of decimal digits. -/
def digitRun (verbose : Bool) : Bool → List Char → List Char × List Char
  | _, [] => ([], [])
  | true, c :: cs => digitRun verbose (c ≠ '\n') cs
  | false, c :: cs =>
    if c.isDigit then
      let (ds, rest) := digitRun verbose false cs
      (c :: ds, rest)
    else if verbose && Text.isBlank c then digitRun verbose false cs
    else if verbose && c = '#' then digitRun verbose true cs
    else ([], c :: cs)

/-- A count of 32 bits with white space around it; nothing if there are no digits. -/
def count (verbose : Bool) (cs : List Char) : Except Fault (Option Nat × List Char) :=
  let (ds, rest) := digitRun verbose false (cs.dropWhile Text.isBlank)
  let rest := rest.dropWhile Text.isBlank
  if ds = [] then .ok (none, rest)
  else if Text.digitsValue ds < 4294967296 then .ok (some (Text.digitsValue ds), rest)
  else .error .badCount

/-- The bounds of a counted repetition, after the opening brace. -/
def bounds (verbose : Bool) (cs : List Char) :
    Except Fault ((Nat × Option Nat) × List Char) := do
  let (low, rest) ← count verbose (skip verbose cs)
  let (low, high, rest) ←
    match low, rest with
    | some low, ',' :: rest =>
      match skip verbose rest with
      | '\x7d' :: rest => pure (low, none, '\x7d' :: rest)
      | rest =>
        match ← count verbose rest with
        | (some high, rest) => pure (low, some high, rest)
        | (none, _) => throw .badCount
    | some low, rest => pure (low, some low, rest)
    | none, _ => throw .badCount
  match rest with
  | '\x7d' :: rest =>
    if high.all (low ≤ ·) then return ((low, high), rest) else throw .badCount
  | _ => throw .badCount

/-- A character given by its code point. -/
def charOfCode (digits : List Char) : Except Fault Char :=
  let n := Text.hexValue digits
  if n.isValidChar then .ok (Char.ofNat n) else .error .badHex

/-- Exactly `n` hexadecimal digits. -/
def hexDigits (verbose : Bool) : Nat → List Char → Except Fault (List Char × List Char)
  | 0, cs => .ok ([], cs)
  | n + 1, cs =>
    match cs with
    | c :: cs =>
      if (Text.hexDigit? c).isSome then do
        let (ds, rest) ← hexDigits verbose n (skip verbose cs)
        return (c :: ds, rest)
      else .error .badHex
    | [] => .error .badHex

/-- A character given by `n` hexadecimal digits or by some between braces. -/
def hexChar (verbose : Bool) (n : Nat) (cs : List Char) : Except Fault (Char × List Char) :=
  match skip verbose cs with
  | '\x7b' :: rest =>
    match untilBrace verbose false rest with
    | some (body, rest) =>
      if body ≠ [] ∧ body.all fun c => (Text.hexDigit? c).isSome then do
        return (← charOfCode body, skip verbose rest)
      else .error .badHex
    | none => .error .badHex
  | rest => do
    let (ds, rest) ← hexDigits verbose n rest
    return (← charOfCode ds, rest)

end Pattern
end Sift
