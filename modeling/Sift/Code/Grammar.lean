import Sift.Code.Expression

/-!
The grammar of program code.

`Grammar.ofDepth n` reads forms that hold one another no deeper than `n`; the readers for whole
pieces of code allow as much depth as the number of their tokens can need.
-/

namespace Sift
namespace Code

/-- What each form is made of, by the grammar of the forms inside it. -/
def Grammar.step (g : Grammar) : Grammar
  | .type plus, _, r => plainly (type g plus r)
  | .bounds plus seen, _, r => bounds g plus seen r
  | .angled, _, r => plainly (angled g r)
  | .arguments, _, r => plainly (arguments g r)
  | .segments inCode, before, r => segments g inCode before r
  | .pattern, _, r => plainly (pattern g r)
  | .alternatives, _, r => plainly (alternatives g r)
  | .patternFields, _, r => plainly (patternFields g r)
  | .expression records, _, r => expression g records r
  | .operand records, _, r => operand g records r
  | .suffixes, before, r => suffixes g before r
  | .operators records level, before, r => operators g records level before r
  | .tighter records level, before, r => tighter g records level before r
  | .statement, _, r => statement g r
  | .statements, _, r => plainly (statements g r)
  | .arms, _, r => plainly (arms g r)
  | .fields, _, r => plainly (fields g r)
  | .closureParameters, _, r => plainly (closureParameters g r)
  | .attributes, _, r => plainly (attributes g r)
  | .list item, _, r => plainly (list g item r)

/-- Reads forms up to a depth. -/
def Grammar.ofDepth : Nat → Grammar
  | 0, _, _, _ => none
  | n + 1, form, before, r => Grammar.step (Grammar.ofDepth n) form before r

mutual

/-- The number of tokens, those in groups included. -/
def Token.count : Token → Nat
  | .group _ inside => 1 + countAll inside
  | _ => 1

/-- The number of tokens of a list, those in groups included. -/
def countAll : List Token → Nat
  | [] => 0
  | token :: rest => token.count + countAll rest

end

/-- Between two tokens no more than six forms are opened. -/
def Grammar.covering (r : Rest) : Grammar := .ofDepth (8 * countAll r.tokens + 8)

/-- Reads a type. -/
def Rest.type? (r : Rest) : Option Rest := (Grammar.covering r).read (.type true) r

/-- Reads an expression. -/
def Rest.expression? (r : Rest) : Option Rest := (Grammar.covering r).read (.expression true) r

end Code
end Sift
