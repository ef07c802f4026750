import Sift.Hash
import Sift.Text.Ascii

/-!
Universally unique identifiers: sixteen bytes, written as hexadecimal digits in groups of
8, 4, 4, 4 and 12.
-/

namespace Sift

structure Uuid where
  bytes : List UInt8
  length_bytes : bytes.length = 16
  deriving DecidableEq

instance : Feeds Uuid := ⟨fun u => u.bytes.map UInt8.toNat⟩

instance : LawfulFeeds Uuid := .of_lawfulBEq

namespace Uuid

/-- The identifier with these bytes, if there are sixteen. -/
def ofBytes? (bytes : List UInt8) : Option Uuid :=
  if h : bytes.length = 16 then some ⟨bytes, h⟩ else none

/-- The bytes that pairs of hexadecimal digits stand for. -/
def readBytes : List Char → Option (List UInt8)
  | [] => some []
  | [_] => none
  | a :: b :: rest => do
    let high ← Text.hexDigit? a
    let low ← Text.hexDigit? b
    let bytes ← readBytes rest
    return UInt8.ofNat (16 * high + low) :: bytes

/-- The digits of the grouped form, without its hyphens. -/
def ungroup (cs : List Char) : Option (List Char) :=
  match cs.splitOn '-' with
  | [a, b, c, d, e] =>
    if [a, b, c, d, e].map List.length = [8, 4, 4, 4, 12] then some (a ++ b ++ c ++ d ++ e)
    else none
  | _ => none

/-- The 32 digits of an identifier in one of its forms: alone, in groups, in groups between
braces, or in groups after the mark of the URN name space. -/
def digits? (text : String) : Option (List Char) :=
  let cs := text.toList
  if cs.length = 32 then some cs
  else if cs.length = 36 then ungroup cs
  else if cs.length = 38 ∧ cs.head? = some '\x7b' ∧ cs.getLast? = some '\x7d' then
    ungroup (cs.drop 1).dropLast
  else if cs.length = 45 ∧ Text.sameIgnoringCase (String.ofList (cs.take 9)) "urn:uuid:" then
    ungroup (cs.drop 9)
  else none

def read? (text : String) : Option Uuid := do
  ofBytes? (← readBytes (← digits? text))

/-- The 32 digits in a row. -/
def simpleText (u : Uuid) : String := String.ofList (u.bytes.flatMap Text.hexByte)

/-- The canonical text: lower case, in groups. -/
def text (u : Uuid) : String :=
  let ds := u.bytes.flatMap Text.hexByte
  let group (first size : Nat) := (ds.drop first).take size
  String.ofList (group 0 8 ++ '-' :: group 8 4 ++ '-' :: group 12 4 ++ '-' :: group 16 4 ++
    '-' :: group 20 12)

end Uuid
end Sift
