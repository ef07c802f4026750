import Sift.Derive.Fault

/-!
Rules that name all fields of a record alike.

A rule is applied to a name of words in lower case with underscores between them.  Only letters of
ASCII change their case.  `apply` gives the name that filters use and `storedKey` the key in a
stored document; the two differ where a name to be written in camel case starts with a capital
letter or an underscore.
-/

namespace Sift

inductive NamingRule where
  | lower
  | upper
  | pascal
  | camel
  | snake
  | screamingSnake
  | kebab
  | screamingKebab
  deriving DecidableEq, Repr

namespace NamingRule

def all : List NamingRule :=
  [lower, upper, pascal, camel, snake, screamingSnake, kebab, screamingKebab]

/-- The name of a rule is written in the case that it is about. -/
def name : NamingRule → String
  | lower => "lowercase"
  | upper => "UPPERCASE"
  | pascal => "PascalCase"
  | camel => "camelCase"
  | snake => "snake_case"
  | screamingSnake => "SCREAMING_SNAKE_CASE"
  | kebab => "kebab-case"
  | screamingKebab => "SCREAMING-KEBAB-CASE"

def read (text : String) : Except DeriveFault NamingRule :=
  match all.find? fun rule => rule.name == text with
  | some rule => .ok rule
  | none => .error (.unknownRule text)

/-- Joins the words of a name.  A word after an underscore gets a capital, and the first word does
if asked for. -/
def joinWords (capital : Bool) : List Char → List Char
  | [] => []
  | c :: cs =>
    if c = '_' then joinWords true cs
    else (if capital then c.toUpper else c) :: joinWords false cs

/-- Hyphens in the place of underscores. -/
def hyphenated (cs : List Char) : List Char :=
  cs.map fun c => if c = '_' then '-' else c

def applyToChars : NamingRule → List Char → List Char
  | lower, cs => cs
  | snake, cs => cs
  | upper, cs => cs.map Char.toUpper
  | screamingSnake, cs => cs.map Char.toUpper
  | kebab, cs => hyphenated cs
  | screamingKebab, cs => (hyphenated cs).map Char.toUpper
  | pascal, cs => joinWords true cs
  | camel, cs => joinWords false cs

/-- The name that filters use for a field. -/
def apply (rule : NamingRule) (field : String) : String :=
  String.ofList (rule.applyToChars field.toList)

/-- The first character in lower case. -/
def uncapitalized : List Char → List Char
  | [] => []
  | c :: cs => c.toLower :: cs

/-- The key of a field in a stored document, as a rule for reading and writing alike makes it.  In
camel case it is the key in pascal case with its first character in lower case.  A rule that is
given for writing only, as in `rename_all(serialize = ..)`, is not considered. -/
def storedKey (rule : NamingRule) (field : String) : String :=
  match rule with
  | camel => String.ofList (uncapitalized (applyToChars pascal field.toList))
  | _ => rule.apply field

end NamingRule
end Sift
