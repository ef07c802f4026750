import Sift.Code.Type

/-!
Patterns in program code, which take values apart.
-/

namespace Sift
namespace Code

variable (g : Grammar)

/-- A name for the value, and a pattern that it has to have too. -/
def binding (r : Rest) : Option Rest := do
  let r := (r.optionalWord "ref").optionalWord "mut"
  let r ← if r.atWord "self" then some (r.skip 1) else r.name?
  if r.atSigns "@" then g.read .pattern (r.skip 1) else return r

/-- One end of a range may be missing here. -/
def endsRange (r : Rest) : Bool :=
  r.isEmpty || r.atSigns "|" || r.atSigns "=" || r.atSignsOnly ":" ["::"] || r.atSigns "," ||
    r.atSigns ";" || r.atWord "if"

/-- An end of a range: a literal, a path or a constant. -/
def rangeEnd (r : Rest) : Option Rest :=
  if r.atLiteral then r.literal?
  else if r.atName || r.atPathKeyword || r.atSigns "::" || r.atSigns "<" then
    (qualifiedPath g true r).map Prod.snd
  else if r.atWord "const" then (r.skip 1).group? .curly (g.read .statements)
  else none

/-- The dots of a range and its end, which may be missing behind two dots. -/
def rangeTail (r : Rest) : Option Rest :=
  if r.atSigns "..=" then rangeEnd g (r.skip 3)
  else if r.atSigns "..." then rangeEnd g (r.skip 3)
  else do
    let r ← r.signs? ".."
    if endsRange r then return r else rangeEnd g r

/-- A pattern that starts with a path. -/
def pathPattern (r : Rest) : Option Rest :=
  match r.plainPath?.filter fun r => r.atSignsOnly "!" ["!="] with
  | some macroArguments => (macroArguments.skip 1).anyGroup?
  | none => do
    let (_, r) ← qualifiedPath g true r
    if r.atGroup .curly then r.group? .curly (g.read .patternFields)
    else if r.atGroup .round then r.group? .round (g.read (.list .alternatives))
    else if r.atSigns ".." then rangeTail g r
    else return r

/-- A pattern that starts with a path is told from a name by what follows. -/
def startsPathPattern (r : Rest) : Bool :=
  let next := r.skip 1
  r.atName && (next.atSigns "::" || next.atSigns "!" || next.atGroup .curly ||
      next.atGroup .round || next.atSigns "..") ||
    r.atWord "self" && next.atSigns "::" ||
    r.atSigns "::" || r.atSigns "<" || r.atOneOf ["Self", "super", "crate"]

def pattern (r : Rest) : Option Rest :=
  if startsPathPattern r then pathPattern g r
  else if r.atWord "_" then some (r.skip 1)
  else if r.atWord "box" then g.read .pattern (r.skip 1)
  else if r.atSigns "-" || r.atLiteral || r.atWord "const" then do
    let r ← rangeEnd g r
    if r.atSigns ".." then rangeTail g r else return r
  else if r.atOneOf ["ref", "mut", "self"] || r.atName then binding g r
  else if r.atSigns "&" then g.read .pattern ((r.skip 1).optionalWord "mut")
  else if r.atGroup .round then r.group? .round (g.read (.list .alternatives))
  else if r.atGroup .square then r.group? .square (g.read (.list .alternatives))
  else if r.atSignsOnly ".." ["..."] then rangeTail g r
  else none

/-- Patterns with bars between them; one may stand in front. -/
def alternatives (r : Rest) : Option Rest := do
  let r ← g.read .pattern (if r.atSignsOnly "|" ["||", "|="] then r.skip 1 else r)
  if r.atSignsOnly "|" ["||", "|="] then g.read .alternatives (r.skip 1) else return r

/-- A field of a record by its name or its place. -/
def member (r : Rest) : Option Rest :=
  match r.tokens with
  | .literal source .integer :: _ =>
    if source.toList.all fun c => c.isDigit || c == '_' then some (r.skip 1) else none
  | _ => r.name?

def patternFields (r : Rest) : Option Rest :=
  if r.isEmpty then some r
  else do
    let r ← g.read .attributes r
    if r.atSigns ".." then return r.skip 2
    let plain := !r.atOneOf ["box", "ref", "mut"]
    let r := ((r.optionalWord "box").optionalWord "ref").optionalWord "mut"
    let named := r.atName
    let r ← member r
    let r ←
      if plain && r.atSigns ":" || !named then g.read .alternatives (← r.signs? ":") else some r
    if r.isEmpty then return r
    g.read .patternFields (← r.signs? ",")

end Code
end Sift
