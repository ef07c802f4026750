import Sift.Pattern.Fault

/-!
The flags of a pattern, and how groups set them.
-/

namespace Sift
namespace Pattern

structure Flags where
  ignoreCase : Bool
  multiLine : Bool
  /-- A dot also stands for the end of a line. -/
  dotAll : Bool
  /-- Repetitions prefer the shorter match.  Whether there is a match does not depend on it. -/
  swapGreed : Bool
  unicode : Bool
  /-- A line may also end with a carriage return. -/
  crlf : Bool
  /-- White space and comments say nothing. -/
  verbose : Bool

namespace Flags

/-- Unicode, and nothing else. -/
def initial : Flags := ⟨false, false, false, false, true, false, false⟩

/-- Sets the flag of a letter. -/
def set? (f : Flags) (letter : Char) (value : Bool) : Option Flags :=
  match letter with
  | 'i' => some { f with ignoreCase := value }
  | 'm' => some { f with multiLine := value }
  | 's' => some { f with dotAll := value }
  | 'U' => some { f with swapGreed := value }
  | 'u' => some { f with unicode := value }
  | 'R' => some { f with crlf := value }
  | 'x' => some { f with verbose := value }
  | _ => none

/-- Applies the letters that stand before the end of a flag group.  A minus sign turns the flags
behind it off; it stands once, has a flag behind it, and no flag stands twice. -/
def apply (f : Flags) (letters : List Char) : Except Fault Flags :=
  if ¬ letters.Nodup ∨ letters.getLast? = some '-' then .error .badFlags
  else
    let on := letters.takeWhile (· ≠ '-')
    let off := (letters.dropWhile (· ≠ '-')).drop 1
    match setAll f true on >>= fun f => setAll f false off with
    | some f => .ok f
    | none => .error .badFlags
where
  setAll (f : Flags) (value : Bool) (letters : List Char) : Option Flags :=
    letters.foldlM (fun f letter => f.set? letter value) f

end Flags
end Pattern
end Sift
