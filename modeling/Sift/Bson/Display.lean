import Sift.Bson
import Sift.Bson.Base64
import Sift.Number.Shortest
import Sift.Time.Timestamp

/-!
BSON values as readers see them in messages.
-/

namespace Sift
namespace Bson

/-- A time as date, time of day and offset.  The hour has as many digits as it needs, and a
fraction at least one.  A time in a year of more than six digits is shown as its number of
milliseconds. -/
def datetimeText (millis : Int) : String :=
  let first := (⟨-999999, 1, 1⟩ : Calendar.Date).toDays * 86400000
  let last := ((⟨999999, 12, 31⟩ : Calendar.Date).toDays + 1) * 86400000
  if millis < first ∨ last ≤ millis then toString millis
  else
    let date := Calendar.Date.ofDays (millis / 86400000)
    let time := (millis % 86400000 / 1000).toNat
    let fraction := Text.padded 3 (millis % 1000).toNat
    let kept := (fraction.reverse.dropWhile (· == '0')).reverse
    String.ofList
      (Timestamp.yearText date.year ++ '-' :: Text.padded 2 date.month ++ '-' ::
        Text.padded 2 date.day ++ ' ' :: Text.padded 1 (time / 3600) ++ ':' ::
        Text.padded 2 (time / 60 % 60) ++ ':' :: Text.padded 2 (time % 60) ++ '.' ::
        (if kept = [] then ['0'] else kept)) ++ " +00:00:00"

def hexText (bytes : List UInt8) : String := String.ofList (bytes.flatMap Text.hexByte)

/-- A number to the base 16, without zeros in front. -/
def shortHex (n : Nat) : String := String.ofList (Nat.toDigits 16 n)

mutual

/-- The text of a value. -/
def text : Bson → String
  | null => "null"
  | boolean value => if value then "true" else "false"
  | int32 value => toString value.toInt
  | int64 value => toString value.toInt
  | double value => value.text
  | datetime millis => "DateTime(\"" ++ datetimeText millis.toInt ++ "\")"
  | string text => "\"" ++ text ++ "\""
  | binary subtype bytes =>
    "Binary(0x" ++ shortHex subtype.toByte.toNat ++ ", " ++ String.ofList (Base64.encode bytes) ++ ")"
  | array items => "[" ++ String.intercalate ", " (itemTexts items) ++ "]"
  | document [] => "\x7b\x7d"
  | document fields => "\x7b " ++ String.intercalate ", " (fieldTexts fields) ++ " \x7d"
  | objectId bytes => "ObjectId(\"" ++ hexText bytes ++ "\")"
  | timestamp time increment =>
    "Timestamp(" ++ toString time.toNat ++ ", " ++ toString increment.toNat ++ ")"
  | symbol text => "Symbol(\"" ++ text ++ "\")"
  | code text => text
  | undefined => "undefined"
  | minKey => "MinKey"
  | maxKey => "MaxKey"

def itemTexts : List Bson → List String
  | [] => []
  | item :: items => item.text :: itemTexts items

def fieldTexts : List (String × Bson) → List String
  | [] => []
  | (key, value) :: fields => ("\"" ++ key ++ "\": " ++ value.text) :: fieldTexts fields

end

end Bson
end Sift
