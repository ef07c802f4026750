import Sift.Code.Rest

/-!
The forms of code, and what a grammar says of them.

The forms of types, patterns and expressions hold one another.  Each is described by a function
of the grammar for the forms inside it, and `Grammar.ofDepth` closes the circle: it reads forms that
are nested no deeper than a given number.
-/

namespace Sift
namespace Code

inductive Form where
  /-- A type; `plus` if further bounds may follow it. -/
  | type (plus : Bool)
  /-- The bounds of a type; `seen` if one of them has been a trait. -/
  | bounds (plus seen : Bool)
  /-- The arguments of a path, in angle brackets. -/
  | angled
  /-- Arguments of a path up to the closing bracket. -/
  | arguments
  /-- The segments of a path that follow the first ones. -/
  | segments (inCode : Bool)
  /-- A pattern. -/
  | pattern
  /-- Patterns with bars between them. -/
  | alternatives
  /-- The fields of a pattern for a record. -/
  | patternFields
  /-- An expression; `records` if it may end with a record in curly brackets. -/
  | expression (records : Bool)
  /-- An expression without operators of two sides. -/
  | operand (records : Bool)
  /-- Calls, fields and indices behind an expression. -/
  | suffixes
  /-- Operators of at least the strength `level` and their right sides. -/
  | operators (records : Bool) (level : Nat)
  /-- Operators that bind their left side more tightly than `level`. -/
  | tighter (records : Bool) (level : Nat)
  /-- An expression at the start of a statement. -/
  | statement
  /-- The statements of a block. -/
  | statements
  /-- The arms of a case distinction. -/
  | arms
  /-- The fields of a record. -/
  | fields
  /-- The parameters of a function without a name, up to their closing bar. -/
  | closureParameters
  /-- Attributes of what follows. -/
  | attributes
  /-- Forms with commas between them, to the end. -/
  | list (item : Form)

/-- What matters of a form that has been read for what may follow it. -/
inductive Shape where
  | plain
  /-- A path that ends with a name and not with arguments. -/
  | named
  /-- A comparison, which is not compared with anything. -/
  | comparison
  /-- A range, which no operator follows. -/
  | range
  /-- An expression in curly brackets that is a statement by itself. -/
  | block
  /-- A macro with curly brackets. -/
  | blockMacro
  /-- Bounds none of which is a trait. -/
  | lifetimes
  deriving DecidableEq, Repr

/-- Reads forms, given the shape of what has been read before them. -/
abbrev Grammar := Form → Shape → Rest → Option (Shape × Rest)

/-- Reads a form for which it does not matter what stands before it. -/
def Grammar.read (g : Grammar) (form : Form) (r : Rest) : Option Rest :=
  (g form .plain r).map Prod.snd

/-- Reads a form of which the shape matters too. -/
def Grammar.shaped (g : Grammar) (form : Form) (r : Rest) : Option (Shape × Rest) :=
  g form .plain r

/-- A plain form. -/
def plainly (r : Option Rest) : Option (Shape × Rest) := r.map (Shape.plain, ·)

/-- Items with commas between them and perhaps one behind the last, up to the end. -/
def list (g : Grammar) (item : Form) (r : Rest) : Option Rest :=
  if r.isEmpty then some r
  else do
    let r ← g.read item r
    if r.isEmpty then return r
    g.read (.list item) (← r.signs? ",")

end Code
end Sift
