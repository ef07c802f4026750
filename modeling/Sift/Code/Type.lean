import Sift.Code.Form

/-!
Paths, types and bounds in program code.
-/

namespace Sift
namespace Code

variable (g : Grammar)

/-! ## Paths -/

/-- A part of a path.  In code its arguments stand behind a double colon, so that they are not
taken for a comparison. -/
def segment (inCode : Bool) (r : Rest) : Option (Shape × Rest) :=
  if r.atOneOf ["super", "self", "crate", "try"] then some (.named, r.skip 1)
  else do
    let r ← if r.atWord "Self" then some (r.skip 1) else r.name?
    if !inCode && r.atSignsOnly "<" ["<=", "<<="] || r.atSigns "::" && (r.skip 2).atSigns "<" then
      plainly (g.read .angled r)
    else return (.named, r)

/-- The parts of a path behind those that have been read. -/
def segments (inCode : Bool) (before : Shape) (r : Rest) : Option (Shape × Rest) :=
  if r.atSigns "::" && !(r.skip 2).atGroup .round then do
    let (shape, r) ← segment g inCode (r.skip 2)
    g (.segments inCode) shape r
  else some (before, r)

def path (inCode : Bool) (r : Rest) : Option (Shape × Rest) := do
  let (shape, r) ← segment g inCode (r.optionalSigns "::")
  segments g inCode shape r

/-- A path that may start with a type in angle brackets. -/
def qualifiedPath (inCode : Bool) (r : Rest) : Option (Shape × Rest) :=
  if r.atSigns "<" then do
    let r ← g.read (.type true) (r.skip 1)
    let r ← if r.atWord "as" then (path g false (r.skip 1)).map Prod.snd else some r
    let r ← (← r.signs? ">").signs? "::"
    let (shape, r) ← segment g inCode r
    let rec more (n : Nat) (shape : Shape) (r : Rest) : Option (Shape × Rest) :=
      match n with
      | 0 => none
      | n + 1 =>
        if r.atSigns "::" then do
          let (shape, r) ← segment g inCode (r.skip 2)
          more n shape r
        else some (shape, r)
    more (r.tokens.length + 1) shape r
  else path g inCode r

/-- The type of what a function gives, if there is an arrow. -/
def result (r : Rest) : Option Rest :=
  if r.atSigns "->" then g.read (.type false) (r.skip 2) else some r

/-- Types in round brackets behind a path that ends with a name, and the type that they are sent
to. -/
def signature (before : Shape) (r : Rest) : Option (Bool × Rest) :=
  let behind := r.optionalSigns "::"
  if before = .named && behind.atGroup .round then do
    let r ← behind.group? .round (g.read (.list (.type true)))
    return (true, ← result g r)
  else some (false, r)

/-- A path with a signature, as a bound. -/
def boundPath (r : Rest) : Option Rest := do
  let (shape, r) ← path g false r
  return (← signature g shape r).2

/-- A path as a type, which may go on behind a signature. -/
def typePath (r : Rest) : Option Rest := do
  let (shape, r) ← qualifiedPath g false r
  let (applied, r) ← signature g shape r
  if applied then (segments g false .plain r).map Prod.snd else return r

/-! ## Attributes -/

/-- What stands in the brackets of an attribute. -/
def attributeContent (r : Rest) : Option Rest := do
  let r ← if r.atWord "unsafe" then some (r.skip 1)
    else if r.atWord "try" then none
    else r.plainPath?
  if r.atSigns "=" then g.read (.expression true) (r.skip 1)
  else return (r.anyGroup?).getD r

def attributes (r : Rest) : Option Rest :=
  if r.atSigns "#" && (r.skip 1).atGroup .square then do
    g.read .attributes (← (r.skip 1).group? .square (attributeContent g))
  else some r

/-! ## Bounds -/

/-- Lifetimes with plus signs between them. -/
def lifetimes : Nat → Reader
  | 0, _ => none
  | n + 1, r =>
    if r.atLifetime then
      let r := r.skip 1
      if r.atSigns "+" then lifetimes n (r.skip 1) else some r
    else some r

/-- Parameters that are lifetimes, up to the closing bracket. -/
def lifetimeParameters : Nat → Reader
  | 0, _ => none
  | n + 1, r =>
    if r.atSigns ">" then some (r.skip 1)
    else do
      let r ← (← g.read .attributes r).lifetime?
      let r ← if r.atSignsOnly ":" ["::"] then lifetimes r.tokens.length (r.skip 1) else some r
      if r.atSigns ">" then return r.skip 1
      lifetimeParameters n (← r.signs? ",")

/-- Lifetimes that a bound or a function is for, if it says so. -/
def forLifetimes (r : Rest) : Option Rest :=
  if r.atWord "for" then do
    let r ← (r.skip 1).signs? "<"
    lifetimeParameters g (r.tokens.length + 1) r
  else some r

/-- A trait as a bound. -/
def traitBound (r : Rest) : Option Rest := do
  let r ← forLifetimes g r
  let r := if r.atSigns "~" && (r.skip 1).atWord "const" then r.skip 2 else r
  let r := r.optionalSigns "?"
  boundPath g (← forLifetimes g r)

def bound (r : Rest) : Option (Shape × Rest) :=
  if r.atLifetime then some (.lifetimes, r.skip 1)
  else if r.atWord "use" then do
    let r ← (r.skip 1).signs? "<"
    let skipped := r.skip (r.tokens.findIdx fun token => token matches .sign '>' _)
    return (.lifetimes, ← skipped.signs? ">")
  else if r.atGroup .round then plainly (r.group? .round (traitBound g))
  else plainly (traitBound g r)

/-- Another bound may follow a plus sign. -/
def startsBound (r : Rest) : Bool :=
  r.atAnyWord || r.atSigns "::" || r.atSigns "?" || r.atLifetime || r.atGroup .round

/-- Bounds with plus signs between them; `before` is what has been seen of them. -/
def bounds (plus seen : Bool) (r : Rest) : Option (Shape × Rest) := do
  let (shape, r) ← bound g r
  let seen := seen || shape != .lifetimes
  let done := (if seen then Shape.plain else .lifetimes, r)
  if plus && r.atSigns "+" then
    let r := r.skip 1
    if startsBound r then g (.bounds plus seen) .plain r else return (done.1, r)
  else return done

/-- Bounds of which one at least is a trait. -/
def traits (plus : Bool) (r : Rest) : Option Rest := do
  let (shape, r) ← g.shaped (.bounds plus false) r
  if shape = .lifetimes then none else return r

/-- Further bounds behind a first one. -/
def moreBounds (r : Rest) : Option Rest :=
  if r.atSigns "+" then
    let r := r.skip 1
    if startsBound r then g.read (.bounds true true) r else some r
  else some r

/-! ## Types -/

/-- A parameter of a function type: a type, or a name and a type. -/
def functionParameter (first : Bool) (r : Rest) : Option Rest := do
  let r ← g.read .attributes r
  let mutable := first && r.atWord "mut" && (r.skip 1).atWord "self"
  let r := if mutable then r.skip 1 else r
  let named := (r.atName || r.atWord "_" || first && r.atWord "self") &&
    (r.skip 1).atSignsOnly ":" ["::"]
  if named then g.read (.type true) (r.skip 2)
  else if mutable then r.word? "self"
  else g.read (.type true) r

def functionParameters : Nat → Bool → Reader
  | 0, _, _ => none
  | n + 1, first, r =>
    if r.isEmpty then some r
    else do
      let bare ← g.read .attributes r
      let variadic := if bare.atName || bare.atWord "_" then
          if (bare.skip 1).atSignsOnly ":" ["::"] then bare.skip 2 else bare
        else bare
      if variadic.atSigns "..." then return (variadic.skip 3).optionalSigns ","
      let r ← functionParameter g first r
      if r.isEmpty then return r
      functionParameters n false (← r.signs? ",")

def functionType (r : Rest) : Option Rest := do
  let r := r.optionalWord "unsafe"
  let r := if r.atWord "extern" then
      let r := r.skip 1
      if r.atPlainLiteral then r.skip 1 else r
    else r
  let r ← r.word? "fn"
  result g (← r.group? .round fun r => functionParameters g (r.tokens.length + 1) true r)

/-- What stands in the round brackets of a type. -/
def insideRound (r : Rest) : Option Rest :=
  if r.isEmpty then some r
  else if r.atLifetime then traits g true r
  else if r.atSigns "?" then traitBound g r
  else do
    let r ← g.read (.type true) r
    if r.atSigns "," then g.read (.list (.type true)) (r.skip 1) else return r

/-- The brackets hold a single bound, to which others may be added. -/
def holdsBound : List Token → Bool
  | .group .round tokens :: _ =>
    let r := Rest.ofTokens tokens
    r.atSigns "?" || r.atName || r.atPathKeyword || r.atSigns "::" || r.atWord "for"
  | _ => false

def type (plus : Bool) (r : Rest) : Option Rest :=
  if r.atGroup .round then do
    let after ← r.group? .round (insideRound g)
    if plus && holdsBound r.tokens then moreBounds g after else return after
  else do
    let start := r
    let r ← forLifetimes g r
    let polymorphic := start.atWord "for"
    if r.atOneOf ["fn", "unsafe", "extern"] then functionType g r
    else if r.atName || r.atPathKeyword || !polymorphic && (r.atSigns "::" || r.atSigns "<") then
      let plain := r.plainPath?.filter fun r => r.atSignsOnly "!" ["!="]
      match plain with
      | some macroArguments => (macroArguments.skip 1).anyGroup?
      | none =>
        let after ← typePath g r
        if plus && !r.atSigns "<" then moreBounds g after else return after
    else if polymorphic then none
    else if r.atWord "dyn" then traits g plus ((r.skip 1).optionalSigns "*")
    else if r.atWord "impl" then traits g plus (r.skip 1)
    else if r.atGroup .square then
      r.group? .square fun r => do
        let r ← g.read (.type true) r
        if r.atSigns ";" then g.read (.expression true) (r.skip 1) else return r
    else if r.atSigns "*" then
      let r := r.skip 1
      if r.atOneOf ["const", "mut"] then g.read (.type false) (r.skip 1) else none
    else if r.atSigns "&" then
      let r := r.skip 1
      let r := if r.atLifetime then r.skip 1 else r
      g.read (.type false) (r.optionalWord "mut")
    else if r.atSignsOnly "!" ["!="] then return r.skip 1
    else if r.atWord "_" then return r.skip 1
    else if r.atLifetime then traits g true r
    else none

/-! ## Arguments -/

/-- A constant as an argument: a literal or a block. -/
def constant (r : Rest) : Option Rest :=
  if r.atLiteral then r.literal?
  else r.group? .curly (g.read .statements)

/-- Bounds of an argument, up to a comma or the closing bracket. -/
def argumentBounds : Nat → Reader
  | 0, _ => none
  | n + 1, r =>
    if r.atSigns "," || r.atSigns ">" then some r
    else do
      let (_, r) ← bound g r
      if r.atSigns "+" then argumentBounds n (r.skip 1) else return r

/-- An argument of a path: a lifetime, a constant or a type, or what a type of the path is. -/
def argument (r : Rest) : Option Rest :=
  if r.atLifetime && !(r.skip 1).atSigns "+" then some (r.skip 1)
  else if r.atLiteral || r.atGroup .curly then constant g r
  else do
    let after ← g.read (.type true) r
    let valued := after.atSigns "="
    let single := (valued || after.atSigns ":") &&
      (segment g false r).any fun (_, behind) => behind.unmoved after
    if !single then return after
    let r := after.skip 1
    if !valued then argumentBounds g (after.tokens.length + 1) r
    else if r.atLiteral || r.atGroup .curly then constant g r
    else g.read (.type true) r

def arguments (r : Rest) : Option Rest :=
  if r.atSigns ">" then some (r.skip 1)
  else do
    let r ← argument g r
    if r.atSigns ">" then return r.skip 1
    g.read .arguments (← r.signs? ",")

def angled (r : Rest) : Option Rest := do
  g.read .arguments (← (r.optionalSigns "::").signs? "<")

end Code
end Sift
