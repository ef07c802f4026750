import Sift.Code.Grammar

/-!
What stands around the name of a declared type or field: who may see it, its parameters, and what
is asked of them.
-/

namespace Sift
namespace Code

/-- A word that says who may see what is declared, if there is one. -/
def visibility (r : Rest) : Rest :=
  if r.atWord "pub" then
    let r := r.skip 1
    let inside (r : Rest) : Option Rest :=
      if r.atOneOf ["crate", "self", "super"] then some (r.skip 1)
      else do (← r.word? "in").plainPath?
    match r.group? .round inside with
    | some after => if after.cut && !r.cut then r else after
    | none => r
  else r

variable (g : Grammar)

/-- A lifetime, a type or a constant as a parameter. -/
def parameter (r : Rest) : Option Rest := do
  let r ← g.read .attributes r
  if r.atLifetime then
    let r := r.skip 1
    if r.atSignsOnly ":" ["::"] then lifetimes r.tokens.length (r.skip 1) else return r
  else if r.atWord "const" then
    let r ← g.read (.type true) (← (← (r.skip 1).name?).signs? ":")
    if r.atSigns "=" then constant g (r.skip 1) else return r
  else
    let r ← if r.atWord "_" then some (r.skip 1) else r.name?
    let r ← if r.atSignsOnly ":" ["::"] then
        let r := r.skip 1
        if startsBound r then g.read (.bounds true true) r else some r
      else some r
    if r.atSigns "=" then g.read (.type true) (r.skip 1) else return r

/-- Parameters with commas between them, up to the closing bracket. -/
def parametersEnd : Nat → Reader
  | 0, _ => none
  | n + 1, r =>
    if r.atSigns ">" then some (r.skip 1)
    else do
      let r ← parameter g r
      if r.atSigns ">" then return r.skip 1
      parametersEnd n (← r.signs? ",")

/-- The parameters in angle brackets, if there are brackets. -/
def parameters (r : Rest) : Option Rest :=
  if r.atSigns "<" then parametersEnd g (r.tokens.length + 1) (r.skip 1) else some r

/-- There are parameters: the brackets are not empty. -/
def hasParameters (r : Rest) : Bool := r.atSigns "<" && !(r.skip 1).atSigns ">"

/-- A bound on a type or a lifetime. -/
def requirement (r : Rest) : Option Rest :=
  if r.atLifetime then do
    let r ← (r.skip 1).signs? ":"
    lifetimes (r.tokens.length + 1) r
  else do
    let r ← forLifetimes g r
    let r ← (← g.read (.type true) r).signs? ":"
    if r.isEmpty || r.atSigns "," then return r else g.read (.bounds true true) r

/-- Requirements with commas between them, to the end. -/
def requirements : Nat → Reader
  | 0, _ => none
  | n + 1, r =>
    if r.isEmpty then some r
    else do
      let r ← requirement g r
      if r.isEmpty then return r
      requirements n (← r.signs? ",")

/-- The requirements on parameters, if there are any. -/
def whereClause (r : Rest) : Option Rest :=
  if r.atWord "where" then requirements g (r.tokens.length + 1) (r.skip 1) else some r

end Code
end Sift
