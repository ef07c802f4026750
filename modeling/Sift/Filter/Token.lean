import Sift.Filter.Config
import Sift.Filter.Entry
import Sift.Pattern.Escape
import Sift.Schema
import Sift.Value.Coerce

/-!
Reading filter tokens of the form `field|operator|value` against a schema.

The parts of a token are judged from left to right: its shape, its operator, its field, its
value.  A list of tokens is read as a whole, and the first token that cannot be read is the
failure of the list.
-/

namespace Sift
namespace FilterToken

variable {ι : Type} [Catalog ι]

/-- The text of a filter as a pattern. -/
def patternText (mode : RegexMode) (text : String) : String :=
  match mode with
  | .raw => text
  | .literal => Pattern.escape text

/-- Reads the value part of a token for a field of the type given. -/
def readValue (config : FilterConfig) (op : Operator) (type : ScalarType) (value : String) :
    Except FilterError FilterValue :=
  if op.isMulti then
    (fun values => .set (.ofList values)) <$>
      (Text.trimmedPieces config.valueDelimiter value).mapM type.coerce
  else if op = .regex then
    if type.isTextual then .ok (.single (.string (patternText config.regexMode value)))
    else .error (.coercion value type .notText)
  else .single <$> type.coerce value

/-- Reads one token. -/
def read (config : FilterConfig) (schema : Schema ι) (token : String) :
    Except FilterError FilterEntry :=
  match Text.trimmedPieces config.tokenDelimiter token with
  | [field, opName, value] => do
    match Operator.ofName? opName with
    | none => throw (.unknownOperator opName)
    | some op =>
      let type ← schema.resolve field
      return ⟨field, op, ← readValue config op type value⟩
  | _ => .error (.malformed token)

/-- Reads all tokens in order. -/
def readAll (config : FilterConfig) (schema : Schema ι) (tokens : List String) :
    Except FilterError (List FilterEntry) :=
  tokens.mapM (read config schema)

end FilterToken
end Sift
