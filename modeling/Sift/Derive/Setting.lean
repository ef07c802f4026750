import Sift.Code.Grammar
import Sift.Derive.Declaration

/-!
What the options of an attribute say.

An option is read into settings: a name, and the form of what is written behind it.  Nearly always
an option is one setting, but its code may hold a comma and further settings behind it.  A list of
options that cannot be read to its end still has the settings in front of the place where reading
stops, since they are looked at first.
-/

namespace Sift

open Code (Rest Token)

/-- How a text that is the value of a setting ends. -/
inductive TextEnd where
  /-- The text is the whole value. -/
  | whole
  /-- The value is an expression that starts with the text. -/
  | inExpression
  /-- The text is followed by something that is no part of an expression. -/
  | broken
  deriving DecidableEq, Repr

inductive SettingContent where
  /-- The name stands alone. -/
  | bare
  | text (value : String) (ending : TextEnd)
  /-- An equals sign and an expression that does not start with a text. -/
  | code
  /-- A list of settings in brackets, not empty. -/
  | nested
  /-- Something that is none of these. -/
  | broken
  deriving DecidableEq, Repr

structure Setting where
  /-- The name, unless it is a path or marked. -/
  name : Option String
  content : SettingContent
  deriving DecidableEq, Repr

/-- A setting that is not for us may be passed over. -/
def Setting.isReadable (s : Setting) : Bool :=
  match s.content with
  | .broken => false
  | .text _ ending => ending != .broken
  | _ => true

/-- How a list of settings ends. -/
inductive SettingsEnd where
  | complete
  /-- With a comma behind the last setting. -/
  | comma
  /-- With something that is no setting. -/
  | broken
  deriving DecidableEq, Repr

structure Settings where
  settings : List Setting
  ending : SettingsEnd
  /-- A group in the code of a setting has been left before its end. -/
  cut : Bool
  deriving DecidableEq, Repr

namespace Settings

def empty : Settings := ⟨[], .complete, false⟩

/-- One setting, read to its end. -/
def single (s : Setting) : Settings := ⟨[s], .complete, false⟩

/-- What is left is no setting. -/
def unreadable (r : Rest) : Settings := ⟨[], .broken, r.cut⟩

/-- Settings in front of others, with a comma between them. -/
def append (a b : Settings) : Settings :=
  if a.ending = .complete ∧ a.settings ≠ [] then
    let ending := if b.ending = .complete ∧ b.settings = [] then .comma else b.ending
    ⟨a.settings ++ b.settings, ending, a.cut || b.cut⟩
  else { a with ending := .broken }

/-- The settings of options with commas between them. -/
def joined : List Settings → Settings
  | [] => empty
  | [s] => s
  | s :: rest => s.append (joined rest)

/-- The list has been read to its end. -/
def isComplete (s : Settings) : Bool := s.ending != .broken && !s.cut

/-- Every setting may be passed over. -/
def isReadable (s : Settings) : Bool := s.settings.all Setting.isReadable && s.ending != .broken

/-! ## Reading -/

/-- The words of the name of a setting, keywords too. -/
def words? : Nat → Code.Reader
  | 0, _ => none
  | n + 1, r =>
    if r.atAnyWord then
      let r := r.skip 1
      if r.atSigns "::" then words? n (r.skip 2) else some r
    else none

/-- The name of a setting that is one word without a mark. -/
def plainName (before after : Rest) : Option String :=
  match before.tokens with
  | .word name false :: _ => if (before.skip 1).unmoved after then some name else none
  | _ => none

/-- Settings whose content does not matter, up to the end. -/
def passOver : Nat → Rest → Option Rest
  | 0, _ => none
  | n + 1, r => do
    let r ← words? (r.tokens.length + 1) (r.optionalSigns "::")
    let r ← if r.atSigns "=" then (r.skip 1).expression?
      else if r.atGroup .round then r.group? .round (passOver n)
      else some r
    if r.isEmpty then return r
    let r ← r.signs? ","
    if r.isEmpty then return r
    passOver n r

/-- The value of a setting, and what is left behind it. -/
def value (r : Rest) : SettingContent × Option Rest :=
  match r.tokens, r.expression? with
  | .literal _ (.text cs) :: _, after =>
    let ending := match after with
      | none => .broken
      | some after => if (r.skip 1).unmoved after then .whole else .inExpression
    (.text (String.ofList cs) ending, after)
  | _, some after => (.code, some after)
  | _, none => (.broken, none)

/-- What stands behind the name of a setting, and what is left behind that. -/
def content (r : Rest) : SettingContent × Option Rest :=
  if r.atSigns "=" then value (r.skip 1)
  else if r.atGroup .round then
    match r.group? .round (passOver (Code.countAll r.tokens)) with
    | some after => (.nested, some after)
    | none => (.broken, none)
  else (.bare, some r)

/-- A setting of which the content has been read, and those that follow it. -/
def followed (read : Rest → Settings) (s : Setting) : Option Rest → Settings
  | none => ⟨[s], .broken, false⟩
  | some r =>
    if r.isEmpty then ⟨[s], .complete, r.cut⟩
    else if r.atSigns "," then
      let r := r.skip 1
      if r.isEmpty then ⟨[s], .comma, r.cut⟩ else (single s).append (read r)
    else ⟨[s], .broken, r.cut⟩

/-- Reads at most `n` settings. -/
def read : Nat → Rest → Settings
  | 0, r => unreadable r
  | n + 1, r =>
    match words? (r.tokens.length + 1) (r.optionalSigns "::") with
    | none => unreadable r
    | some after =>
      let (content, next) := content after
      followed (read n) ⟨plainName r after, content⟩ next

/-- The settings that tokens stand for. -/
def ofTokens (tokens : List Token) : Settings :=
  if tokens.isEmpty then empty else read tokens.length (.ofTokens tokens)

/-- The content of the last setting, which has none yet, and the settings behind it. -/
def withContent (s : Settings) (content : SettingContent) (behind : Rest → Settings)
    (next : Option Rest) : Settings :=
  match s.settings.getLast?, s.ending with
  | some ⟨name, .bare⟩, .complete =>
    let last := followed behind ⟨name, content⟩ next
    ⟨s.settings.dropLast ++ last.settings, last.ending, s.cut || last.cut⟩
  | _, _ => { s with ending := .broken }

end Settings

/-- The tokens of a text, or none at all. -/
def tokensOf (text : String) : List Token := (Token.readAll? text).getD []

mutual

/-- The settings that an option stands for. -/
def AttributeOption.settings : AttributeOption → Settings
  | .flag name => .ofTokens (tokensOf name)
  | .text name value =>
    (Settings.ofTokens (tokensOf name)).withContent (.text value .whole) .unreadable
      (some (.ofTokens []))
  | .code name source =>
    let tokens := tokensOf source
    let (content, next) := Settings.value (.ofTokens tokens)
    (Settings.ofTokens (tokensOf name)).withContent content (.read tokens.length) next
  | .nested name options =>
    let inside := Settings.joined (settingsOfEach options)
    let content := if inside.settings ≠ [] ∧ inside.isReadable then .nested else .broken
    (Settings.ofTokens (tokensOf name)).withContent content .unreadable
      (some ⟨[], inside.cut⟩)

def settingsOfEach : List AttributeOption → List Settings
  | [] => []
  | option :: rest => option.settings :: settingsOfEach rest

end

mutual

/-- Every text of the option is made of tokens. -/
def AttributeOption.hasTokens : AttributeOption → Bool
  | .flag name => (Token.readAll? name).isSome
  | .text name _ => (Token.readAll? name).isSome
  | .code name source => (Token.readAll? name).isSome && (Token.readAll? source).isSome
  | .nested name options => (Token.readAll? name).isSome && haveTokens options

def haveTokens : List AttributeOption → Bool
  | [] => true
  | option :: rest => option.hasTokens && haveTokens rest

end

end Sift
