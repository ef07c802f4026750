import Sift.Error
import Sift.Json

/-!
Settings for reading filter tokens, and how they are written in a configuration file.
-/

namespace Sift

/-- How the value of a `regex` filter is taken: as a pattern, or as text to be found as it
stands. -/
inductive RegexMode where
  | raw
  | literal
  deriving DecidableEq, Repr

namespace RegexMode

def name : RegexMode → String
  | raw => "raw"
  | literal => "literal"

def ofName? : String → Option RegexMode
  | "raw" => some raw
  | "literal" => some literal
  | _ => none

/-- A mode is written as its name, or as an object whose only member is its name with `null`. -/
def ofJson? : Json → Option RegexMode
  | .string name => ofName? name
  | .object [(name, .null)] => ofName? name
  | _ => none

end RegexMode

structure FilterConfig where
  /-- Separates the field, the operator and the value of a token. -/
  tokenDelimiter : Char
  valueDelimiter : Char
  regexMode : RegexMode
  deriving DecidableEq

namespace FilterConfig

def standard : FilterConfig := ⟨'|', ';', .raw⟩

/-- A delimiter is written as a string of one character. -/
def charOfJson? : Json → Option Char
  | .string text =>
    match text.toList with
    | [c] => some c
    | _ => none
  | _ => none

/-- Reads one setting, which keeps its standard value if it is not written. -/
def setting {α : Type} (read : Json → Option α) (standard : α) : Option Json → Option α
  | none => some standard
  | some json => read json

/-- Settings from what is written for each of the three. -/
def ofParts? (token value mode : Option Json) : Option FilterConfig := do
  return {
    tokenDelimiter := ← setting charOfJson? standard.tokenDelimiter token
    valueDelimiter := ← setting charOfJson? standard.valueDelimiter value
    regexMode := ← setting RegexMode.ofJson? standard.regexMode mode }

/-- Settings are an object, or a list of at most three settings in order. -/
def ofJson? : Json → Option FilterConfig
  | .object members =>
    ofParts? (Json.member? members "token_delimiter") (Json.member? members "value_delimiter")
      (Json.member? members "regex_mode")
  | .array items =>
    if items.length ≤ 3 then ofParts? items[0]? items[1]? items[2]? else none
  | _ => none

def ofJson (json : Json) : Except StoreError FilterConfig :=
  match ofJson? json with
  | some config => .ok config
  | none => .error (.serialization "not a filter configuration")

def toJson (config : FilterConfig) : Json :=
  .object [("token_delimiter", .string config.tokenDelimiter.toString),
    ("value_delimiter", .string config.valueDelimiter.toString),
    ("regex_mode", .string config.regexMode.name)]

end FilterConfig
end Sift
