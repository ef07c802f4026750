import Sift.Pattern.Unicode.Age
import Sift.Pattern.Unicode.Category
import Sift.Pattern.Unicode.Folding
import Sift.Pattern.Unicode.Property
import Sift.Pattern.Unicode.Ranges
import Sift.Pattern.Unicode.Script
import Sift.Pattern.Unicode.Segment
import Sift.Text.Blank

/-!
Character classes.

A class is kept as it is put together, and `Class.mem` says which code points are in it.
-/

namespace Sift
namespace Pattern

inductive Class where
  /-- The code points of a closed range. -/
  | range (first last : Nat)
  /-- The code points of closed ranges. -/
  | ranges (rs : List (Nat × Nat))
  | union (a b : Class)
  | inter (a b : Class)
  | compl (a : Class)
  /-- The class with all characters that differ in case only from one of its own. -/
  | anyCase (a : Class)
  /-- The class with the ASCII letters that differ in case only from one of its own. -/
  | anyAsciiCase (a : Class)

namespace Class

/-- The other case of an ASCII letter. -/
def swapAsciiCase (c : Nat) : Nat :=
  if 0x41 ≤ c ∧ c ≤ 0x5a then c + 0x20
  else if 0x61 ≤ c ∧ c ≤ 0x7a then c - 0x20
  else c

/-- A code point is in the class. -/
def mem : Class → Nat → Bool
  | range first last, c => first ≤ c && c ≤ last
  | ranges rs, c => rs.any fun (first, last) => first ≤ c && c ≤ last
  | union a b, c => a.mem c || b.mem c
  | inter a b, c => a.mem c && b.mem c
  | compl a, c => !a.mem c
  | anyCase a, c => (Unicode.caseVariants c).any fun d => a.mem d
  | anyAsciiCase a, c => a.mem c || a.mem (swapAsciiCase c)

/-- The class of one character. -/
def single (c : Char) : Class := range c.toNat c.toNat

def none : Class := ranges []

def all : Class := range 0 0x10ffff

/-- The code points of ASCII. -/
def ascii : Class := range 0 0x7f

def diff (a b : Class) : Class := inter a (compl b)

def symmDiff (a b : Class) : Class := union (diff a b) (diff b a)

/-- The class, or all that is not in it. -/
def negatedIf (negated : Bool) (a : Class) : Class := if negated then compl a else a

theorem mem_single (c d : Char) : (single c).mem d.toNat = true ↔ d = c := by
  simp only [single, mem, Bool.and_eq_true, decide_eq_true_eq]
  constructor
  · intro ⟨h, h'⟩
    exact Char.toNat_inj.mp (Nat.le_antisymm h' h)
  · rintro rfl
    exact ⟨Nat.le_refl _, Nat.le_refl _⟩

/-! ## Classes by name -/

/-- The ASCII class with a name between `[:` and `:]`. -/
def asciiNamed? (name : String) : Option Class :=
  (table.lookup name).map ranges
where
  table : List (String × List (Nat × Nat)) :=
    [("alnum", [(0x30, 0x39), (0x41, 0x5a), (0x61, 0x7a)]),
     ("alpha", [(0x41, 0x5a), (0x61, 0x7a)]),
     ("ascii", [(0, 0x7f)]),
     ("blank", [(0x9, 0x9), (0x20, 0x20)]),
     ("cntrl", [(0, 0x1f), (0x7f, 0x7f)]),
     ("digit", [(0x30, 0x39)]),
     ("graph", [(0x21, 0x7e)]),
     ("lower", [(0x61, 0x7a)]),
     ("print", [(0x20, 0x7e)]),
     ("punct", [(0x21, 0x2f), (0x3a, 0x40), (0x5b, 0x60), (0x7b, 0x7e)]),
     ("space", [(0x9, 0xd), (0x20, 0x20)]),
     ("upper", [(0x41, 0x5a)]),
     ("word", [(0x30, 0x39), (0x41, 0x5a), (0x5f, 0x5f), (0x61, 0x7a)]),
     ("xdigit", [(0x30, 0x39), (0x41, 0x46), (0x61, 0x66)])]

/-- The characters of the categories with these names. -/
def categories (names : List String) : Class :=
  ranges (names.flatMap fun name => (Unicode.find? Unicode.categoryTable name).getD [])

/-- A general category, also one of the groups of categories.  That of surrogates has no name,
since they stand for no character. -/
def category? (name : String) : Option Class :=
  match name with
  | "l" | "letter" => some (categories ["lu", "ll", "lt", "lm", "lo"])
  | "lc" | "casedletter" => some (categories ["lu", "ll", "lt"])
  | "m" | "mark" | "combiningmark" => some (categories ["mn", "mc", "me"])
  | "n" | "number" => some (categories ["nd", "nl", "no"])
  | "p" | "punctuation" | "punct" =>
    some (categories ["pc", "pd", "ps", "pe", "pi", "pf", "po"])
  | "s" | "symbol" => some (categories ["sm", "sc", "sk", "so"])
  | "z" | "separator" => some (categories ["zs", "zl", "zp"])
  | "c" | "other" => some (compl assigned |>.union (categories ["cc", "cf", "co"]))
  | "cn" | "unassigned" => some (compl assigned)
  | "any" => some all
  | "assigned" => some assigned
  | "ascii" => some ascii
  | _ => (Unicode.find? Unicode.categoryTable name).map ranges
where
  assigned : Class :=
    ranges (Unicode.categoryTable.flatMap fun entry => Unicode.readRanges entry.2)

def script? (name : String) : Option Class :=
  (Unicode.find? Unicode.scriptTable name).map ranges

def property? (name : String) : Option Class :=
  (Unicode.find? Unicode.propertyTable name).map ranges

/-- A name as names are compared: ASCII letters in lower case, without spaces, hyphens and
underscores, and without a leading `is`. -/
def normalName (name : String) : String :=
  let cs := name.toList
  let begins := (cs.take 2).map Char.toLower = ['i', 's']
  let kept := ((if begins then cs.drop 2 else cs).filter fun c =>
    c.toNat < 0x80 && c ≠ ' ' && c ≠ '_' && c ≠ '-').map Char.toLower
  String.ofList (if begins ∧ kept = ['c'] then ['i', 's', 'c'] else kept)

/-- The class of Unicode characters with a name: a property, a category or a script.  Three short
names of properties are taken by categories. -/
def unicodeNamed? (name : String) : Option Class :=
  let name := normalName name
  let property := if name ∈ ["cf", "sc", "lc"] then Option.none else property? name
  property.or ((category? name).or (script? name))

/-- The characters that were assigned in a version of the standard or before it. -/
def age? (version : String) : Option Class :=
  (Unicode.ageTable.findIdx? fun entry => entry.1.contains version).map fun i =>
    ranges ((Unicode.ageTable.take (i + 1)).flatMap fun entry => Unicode.readRanges entry.2)

/-- The class of Unicode characters that have a value for a property. -/
def unicodeValued? (property value : String) : Option Class :=
  let value := normalName value
  match normalName property with
  | "gc" | "generalcategory" => category? value
  | "sc" | "script" => script? value
  | "scx" | "scriptextensions" => (Unicode.find? Unicode.scriptExtensionTable value).map ranges
  | "age" => age? value
  | "gcb" | "graphemeclusterbreak" =>
    (Unicode.find? Unicode.graphemeBreakTable value).map ranges
  | "wb" | "wordbreak" => (Unicode.find? Unicode.wordBreakTable value).map ranges
  | "sb" | "sentencebreak" => (Unicode.find? Unicode.sentenceBreakTable value).map ranges
  | _ => Option.none

/-- Decimal digits of any script, or of ASCII. -/
def digits (unicode : Bool) : Class :=
  if unicode then categories ["nd"] else range 0x30 0x39

/-- White space. -/
def blanks (unicode : Bool) : Class :=
  if unicode then ranges Text.blankRanges else ranges [(0x9, 0xd), (0x20, 0x20)]

/-- Characters of words: letters, marks, digits, joining punctuation and joining controls. -/
def words (unicode : Bool) : Class :=
  if unicode then
    ((property? "alphabetic").getD none |>.union ((property? "joincontrol").getD none)).union
      (categories ["mn", "mc", "me", "nd", "pc"])
  else ranges [(0x30, 0x39), (0x41, 0x5a), (0x5f, 0x5f), (0x61, 0x7a)]

end Class
end Pattern
end Sift
