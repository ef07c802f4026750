import Sift.Code.Pattern

/-!
Expressions and statements in program code.

Where an expression is followed by a block, as a condition is, it cannot end with a record in
curly brackets; `records` says if it can.
-/

namespace Sift
namespace Code

variable (g : Grammar)

/-! ## Operators -/

/-- The signs of operators with two sides and their strengths.  An operator is the first in the
list that fits. -/
def binaryOperators : List (String × Nat) :=
  [("+=", 1), ("-=", 1), ("*=", 1), ("/=", 1), ("%=", 1), ("^=", 1), ("&=", 1), ("|=", 1),
   ("<<=", 1), (">>=", 1), ("&&", 4), ("||", 3), ("<<", 10), (">>", 10), ("==", 6), ("<=", 6),
   ("!=", 6), (">=", 6), ("+", 11), ("-", 11), ("*", 12), ("/", 12), ("%", 12), ("^", 8),
   ("&", 9), ("|", 7), ("<", 6), (">", 6)]

/-- The strengths of operators: those that bind less tightly have the smaller number. -/
def assignmentLevel : Nat := 1
def rangeLevel : Nat := 2
def comparisonLevel : Nat := 6
def castLevel : Nat := 13

def binaryOperator? (r : Rest) : Option (String × Nat) :=
  binaryOperators.find? fun (signs, _) => r.atSigns signs

/-- The strength of the operator that comes next. -/
def nextLevel (r : Rest) : Nat :=
  match binaryOperator? r with
  | some (_, level) => level
  | none =>
    if r.atSignsOnly "=" ["=>"] then assignmentLevel
    else if r.atSigns ".." then rangeLevel
    else if r.atWord "as" then castLevel
    else 0

/-- The right side of an operator, with the operators that bind more tightly. -/
def rightSide (records : Bool) (level : Nat) (r : Rest) : Option Rest := do
  let (shape, r) ← g.shaped (.operand records) r
  return (← g (.tighter records level) shape r).2

def tighter (records : Bool) (level : Nat) (left : Shape) (r : Rest) : Option (Shape × Rest) :=
  let next := nextLevel r
  if level < next || next == level && level == assignmentLevel then do
    let (shape, after) ← g (.operators records next) left r
    if r.unmoved after then return (shape, after)
    g (.tighter records level) shape after
  else some (left, r)

/-- A range without its upper end stops here. -/
def endsOpenRange (records : Bool) (r : Rest) : Bool :=
  r.isEmpty || r.atSigns "," || r.atSigns ";" || r.atSignsOnly "." [".."] || r.atSigns "?" ||
    r.atSigns "=>" || !records && r.atGroup .curly || r.atSigns "=" || r.atSigns "+" ||
    r.atSigns "/" || r.atSigns "%" || r.atSigns "^" || r.atSigns ">" || r.atSigns "<=" ||
    r.atSigns "!=" || r.atSigns "-=" || r.atSigns "*=" || r.atSigns "&=" || r.atSigns "|=" ||
    r.atSigns "<<=" || r.atWord "as"

/-- The dots of a range and its upper end. -/
def range (records : Bool) (r : Rest) : Option Rest :=
  if r.atSigns "..=" then rightSide g records rangeLevel (r.skip 3)
  else if r.atSigns "..." then none
  else
    let r := r.skip 2
    if endsOpenRange records r then some r else rightSide g records rangeLevel r

/-- What has been cast is in brackets if something is done with it. -/
def castMayEnd (r : Rest) : Bool :=
  !(r.atSignsOnly "." [".."] || r.atSigns "?" || r.atGroup .square || r.atGroup .round)

/-- Operators of at least the strength `level`, with their right sides. -/
def operators (records : Bool) (level : Nat) (left : Shape) (r : Rest) : Option (Shape × Rest) :=
  if left = .range then some (left, r)
  else
    let again (shape : Shape) (r : Rest) := g (.operators records level) shape r
    match binaryOperator? r with
    | some (signs, strength) =>
      if strength < level then some (left, r)
      else if strength = comparisonLevel ∧ left = .comparison then none
      else do
        let r ← rightSide g records strength (r.skip signs.length)
        again (if strength = comparisonLevel then .comparison else .plain) r
    | none =>
      if level ≤ assignmentLevel && r.atSignsOnly "=" ["=>"] then do
        again .plain (← rightSide g records assignmentLevel (r.skip 1))
      else if level ≤ rangeLevel && r.atSigns ".." then do again .range (← range g records r)
      else if level ≤ castLevel && r.atWord "as" then do
        let r ← g.read (.type false) (r.skip 1)
        if castMayEnd r then again .plain r else none
      else some (left, r)

def expression (records : Bool) (r : Rest) : Option (Shape × Rest) := do
  let (shape, r) ← g.shaped (.operand records) r
  g (.operators records 0) shape r

/-! ## Blocks -/

/-- Attributes of what they stand in. -/
def innerAttributes : Nat → Reader
  | 0, r => some r
  | n + 1, r =>
    if r.atSigns "#!" && (r.skip 2).atGroup .square then do
      innerAttributes n (← (r.skip 2).group? .square (attributeContent g))
    else some r

def block (r : Rest) : Option Rest :=
  r.group? .curly fun r => do g.read .statements (← innerAttributes g r.tokens.length r)

/-- A condition and the block that it is for, with the other cases. -/
def conditional : Nat → Reader
  | 0, _ => none
  | n + 1, r => do
    let r ← g.read (.expression false) (← r.word? "if")
    let r ← block g r
    if r.atWord "else" then
      let r := r.skip 1
      if r.atWord "if" then conditional n r else block g r
    else return r

/-- A loop with its head and its block. -/
def loop (r : Rest) : Option Rest :=
  if r.atWord "while" then do block g (← g.read (.expression false) (r.skip 1))
  else if r.atWord "for" then do
    let r ← (← g.read .alternatives (r.skip 1)).word? "in"
    block g (← g.read (.expression false) r)
  else do block g (← r.word? "loop")

/-- A loop or a block with a name. -/
def labelled (r : Rest) : Option Rest := do
  let r ← (r.skip 1).signs? ":"
  if r.atGroup .curly then block g r else loop g r

/-- An arm of a case distinction, with a comma unless its block ends it. -/
def arms (r : Rest) : Option Rest :=
  if r.isEmpty then some r
  else do
    let r ← g.read .attributes r
    let r ← g.read .alternatives r
    let r ← if r.atWord "if" then g.read (.expression true) (r.skip 1) else some r
    let (shape, r) ← g.shaped .statement (← r.signs? "=>")
    if shape != .block && !r.isEmpty then g.read .arms (← r.signs? ",")
    else g.read .arms (r.optionalSigns ",")

/-- An expression that is a statement by itself starts here. -/
def startsBlock (r : Rest) : Bool :=
  let next := r.skip 1
  r.atOneOf ["if", "while", "loop", "match", "unsafe"] ||
    r.atWord "for" && !next.atSigns "<" ||
    r.atOneOf ["try", "const"] && next.atGroup .curly ||
    r.atGroup .curly || r.atLifetime

/-- Such an expression. -/
def blockLike (r : Rest) : Option Rest :=
  if r.atWord "if" then conditional g (r.tokens.length + 1) r
  else if r.atOneOf ["while", "for", "loop"] then loop g r
  else if r.atWord "match" then do
    let r ← g.read (.expression false) (r.skip 1)
    r.group? .curly fun r => do g.read .arms (← innerAttributes g r.tokens.length r)
  else if r.atOneOf ["unsafe", "try", "const"] then block g (r.skip 1)
  else if r.atLifetime then labelled g r
  else block g r

/-! ## Operands -/

/-- The parameters of a function without a name, up to the bar behind them. -/
def closureParameters (r : Rest) : Option Rest :=
  if r.atSigns "|" then some (r.skip 1)
  else do
    let r ← g.read .attributes r
    let r ← g.read .pattern r
    let r ← if r.atSigns ":" then g.read (.type true) (r.skip 1) else some r
    if r.atSigns "|" then return r.skip 1
    g.read .closureParameters (← r.signs? ",")

/-- A function without a name. -/
def closure (records : Bool) (r : Rest) : Option Rest := do
  let r ← forLifetimes g r
  let r := ((r.optionalWord "const").optionalWord "static").optionalWord "async"
  let r ← (r.optionalWord "move").signs? "|"
  let r ← g.read .closureParameters r
  if r.atSigns "->" then block g (← g.read (.type true) (r.skip 2))
  else g.read (.expression records) r

def startsClosure (r : Rest) : Bool :=
  let next := r.skip 1
  r.atSigns "|" || r.atWord "move" ||
    r.atWord "for" && next.atSigns "<" && ((next.skip 1).atLifetime || (next.skip 1).atSigns ">") ||
    r.atWord "const" && !next.atGroup .curly || r.atWord "static" ||
    r.atWord "async" && (next.atSigns "|" || next.atWord "move")

/-- The fields of a record, or dots and the record that the others are from. -/
def fields (r : Rest) : Option Rest :=
  if r.isEmpty then some r
  else do
    if r.atSigns ".." then
      let r := r.skip 2
      if r.isEmpty then return r else return ← g.read (.expression true) r
    let r ← g.read .attributes r
    let named := r.atName
    let r ← member r
    let r ← if r.atSigns ":" || !named then g.read (.expression true) (← r.signs? ":") else some r
    if r.isEmpty then return r
    g.read .fields (← r.signs? ",")

/-- A path, or a macro or a record that starts with one. -/
def pathOperand (records : Bool) (r : Rest) : Option (Shape × Rest) :=
  match r.plainPath?.filter fun r => r.atSignsOnly "!" ["!="] with
  | some r =>
    let r := r.skip 1
    r.anyGroup?.map (if r.atGroup .curly then Shape.blockMacro else .plain, ·)
  | none => do
    let (_, r) ← qualifiedPath g true r
    if records && r.atGroup .curly then plainly (r.group? .curly (g.read .fields))
    else return (.plain, r)

/-- An expression can start here. -/
def startsExpression (r : Rest) : Bool :=
  r.atAnyWord || r.atGroup .round || r.atGroup .square || r.atGroup .curly || r.atPlainLiteral ||
    r.atSignsOnly "!" ["!="] || r.atSignsOnly "-" ["-=", "->"] || r.atSignsOnly "*" ["*="] ||
    r.atSignsOnly "|" ["|="] || r.atSignsOnly "&" ["&="] || r.atSigns ".." ||
    r.atSignsOnly "<" ["<=", "<<="] || r.atSigns "::" || r.atLifetime || r.atSigns "#"

/-- The value of a jump, if there is one. -/
def jumpValue (records : Bool) (r : Rest) : Option Rest :=
  if startsExpression r && (records || !r.atGroup .curly) then g.read (.expression records) r
  else some r

/-- Items in square brackets, or one item and how often it is repeated. -/
def items (r : Rest) : Option Rest :=
  if r.isEmpty then some r
  else do
    let r ← g.read (.expression true) r
    if r.atSigns ";" then g.read (.expression true) (r.skip 1)
    else if r.isEmpty then return r
    else g.read (.list (.expression true)) (← r.signs? ",")

/-- An operand without signs around it. -/
def atom (records : Bool) (r : Rest) : Option (Shape × Rest) :=
  let next := r.skip 1
  if r.atPlainLiteral then some (.plain, next)
  else if r.atWord "async" && next.atGroup .curly then plainly (block g next)
  else if r.atWord "async" && next.atWord "move" && (next.skip 1).atGroup .curly then
    plainly (block g (next.skip 1))
  else if r.atWord "try" && next.atGroup .curly then (block g next).map (Shape.block, ·)
  else if startsClosure r then plainly (closure g records r)
  else if r.atName || r.atPathKeyword || r.atSigns "::" || r.atSigns "<" ||
      r.atWord "try" && (next.atSigns "!" || next.atSigns "::") then
    pathOperand g records r
  else if r.atGroup .round then plainly (r.group? .round (g.read (.list (.expression true))))
  else if r.atWord "break" then
    plainly (jumpValue g records (if next.atLifetime then next.skip 1 else next))
  else if r.atWord "continue" then some (.plain, if next.atLifetime then next.skip 1 else next)
  else if r.atOneOf ["return", "yield"] then plainly (jumpValue g true next)
  else if r.atWord "become" then plainly (g.read (.expression true) next)
  else if r.atGroup .square then plainly (r.group? .square (items g))
  else if r.atWord "let" then do
    let r ← g.read .alternatives next
    let (shape, r) ← g.shaped (.operand records) (← r.signs? "=")
    g (.operators records comparisonLevel) shape r
  else if startsBlock r then (blockLike g r).map (Shape.block, ·)
  else if r.atSigns ".." then (range g records r).map (Shape.range, ·)
  else if r.atWord "_" then some (.plain, next)
  else none

/-- The places in a number behind a point, as in `pair.0.1`; the number may end with another
point. -/
def places? (source : String) : Option Bool :=
  let parts := source.toList.splitOn '.'
  let trailing := parts.getLast? == some []
  let parts := if trailing then parts.dropLast else parts
  if parts.all fun part => !part.isEmpty && part.all Char.isDigit then some trailing else none

/-- The field or the function that is named behind a point. -/
def selection (r : Rest) : Option Rest :=
  if r.atWord "await" then some (r.skip 1)
  else do
    let named := r.atName
    let r ← member r
    let applied := named && r.atSigns "::"
    let r ← if applied then g.read .angled (r.skip 2) else some r
    if named && (applied || r.atGroup .round) then
      r.group? .round (g.read (.list (.expression true)))
    else return r

/-- Calls, fields, indices and questions behind an operand. -/
def suffixes (before : Shape) (r : Rest) : Option (Shape × Rest) :=
  let again (r : Rest) := g .suffixes .plain r
  if r.atGroup .round then do again (← r.group? .round (g.read (.list (.expression true))))
  else if r.atSignsOnly "." [".."] && before != .range then do
    let r := r.skip 1
    match r.tokens with
    | .literal source .decimal :: _ =>
      if ← places? source then again (← selection g (r.skip 1)) else again (r.skip 1)
    | _ => again (← selection g r)
  else if r.atGroup .square then do again (← r.group? .square (g.read (.expression true)))
  else if r.atSigns "?" && before != .range then again (r.skip 1)
  else some (before, r)

/-- An operand with the signs in front of it and what stands behind it. -/
def operand (records : Bool) (r : Rest) : Option (Shape × Rest) := do
  let start := r
  let r ← g.read .attributes r
  if r.atSigns "&" then
    let r := r.skip 1
    let next := r.skip 1
    let r := if r.atWord "raw" && next.atOneOf ["mut", "const"] then next.skip 1
      else r.optionalWord "mut"
    plainly (g.read (.operand records) r)
  else if r.atSigns "*" || r.atSigns "!" || r.atSigns "-" then
    plainly (g.read (.operand records) (r.skip 1))
  else
    let (shape, after) ← atom g records r
    let (shape, after) ← g .suffixes shape after
    if shape = .range ∧ !start.unmoved r then none else return (shape, after)

/-! ## Statements -/

/-- An expression where a statement may start: a block ends it, unless a point or a question mark
follows. -/
def statement (r : Rest) : Option (Shape × Rest) := do
  let r ← g.read .attributes r
  if startsBlock r then
    let r ← blockLike g r
    if r.atSignsOnly "." [".."] || r.atSigns "?" then
      let (shape, r) ← g .suffixes .block r
      g (.operators true 0) shape r
    else return (.block, r)
  else expression g true r

/-- A definition, up to its curly brackets or its semicolon. -/
def definition : Nat → Reader
  | 0, _ => none
  | n + 1, r =>
    match r.tokens with
    | [] => none
    | .group .curly _ :: _ => some (r.skip 1)
    | .sign ';' _ :: _ => some (r.skip 1)
    | _ :: _ => definition n (r.skip 1)

def startsDefinition (r : Rest) : Bool :=
  let next := r.skip 1
  r.atOneOf ["pub", "extern", "use", "fn", "mod", "type", "struct", "enum", "trait", "impl",
      "macro"] ||
    r.atWord "crate" && !next.atSigns "::" ||
    r.atWord "static" && (next.atWord "mut" || next.atName) ||
    r.atWord "const" && !(next.atGroup .curly || next.atOneOf ["static", "async", "move"] ||
      next.atSigns "|") ||
    r.atWord "const" && next.atWord "async" && (next.skip 1).atOneOf ["unsafe", "extern", "fn"] ||
    r.atWord "unsafe" && !next.atGroup .curly ||
    r.atWord "async" && next.atOneOf ["unsafe", "extern", "fn"] ||
    r.atWord "union" && next.atName || r.atWord "auto" && next.atWord "trait"

/-- A name for a value, and what is done if its pattern does not fit. -/
def localDefinition (r : Rest) : Option Rest := do
  let r ← g.read .pattern (r.skip 1)
  let r ← if r.atSigns ":" then g.read (.type true) (r.skip 1) else some r
  let r ← if r.atSigns "=" then do
      let r ← g.read (.expression true) (r.skip 1)
      if r.atWord "else" then block g (r.skip 1) else return r
    else some r
  r.signs? ";"

/-- One statement; a block or a definition ends by itself, and others do at the end or with a
semicolon. -/
def oneStatement (r : Rest) : Option Rest := do
  let r ← g.read .attributes r
  let invocation := r.plainPath?.filter fun r => r.atSigns "!"
  let behind := (invocation.map (Rest.skip 1)).getD r
  if invocation.isSome && (behind.atName || behind.atWord "try") then
    definition r.tokens.length r
  else if invocation.isSome && behind.atGroup .curly &&
      !((behind.skip 1).atSignsOnly "." [".."] || (behind.skip 1).atSigns "?") then
    return (behind.skip 1).optionalSigns ";"
  else if r.atWord "let" then localDefinition g r
  else if startsDefinition r then definition (r.tokens.length + 1) r
  else
    let (shape, r) ← statement g r
    if r.isEmpty || r.atSigns ";" then return r.optionalSigns ";"
    else if shape = .block ∨ shape = .blockMacro then return r
    else none

def statements (r : Rest) : Option Rest :=
  if r.isEmpty then some r
  else if r.atSigns ";" then g.read .statements (r.skip 1)
  else do g.read .statements (← oneStatement g r)

end Code
end Sift
