import Sift.Derive.Options

/-!
# Options in a list

A list of options is read as the settings of each of them in order, as long as none of them but the
last leaves a comma behind (`joined_append`).  `AttributeOption.Plain` says by rules how an option
is written that is one setting: a name alone, with a value, or with a list of such options, to any
depth.  Such an option is read to its end and may be passed over (`AttributeOption.Plain.settings`).
-/

namespace Sift

open Code (Rest Token)

namespace Settings

/-! ## Lists of settings -/

/-- There is a setting, and no comma is left behind the last one. -/
def IsWhole (s : Settings) : Prop := s.settings ≠ [] ∧ s.ending = .complete

theorem isComplete_of_isWhole {s : Settings} (h : s.IsWhole) : s.isComplete = !s.cut := by
  rw [isComplete, h.2]
  rfl

theorem isWhole_single (s : Setting) : (single s).IsWhole := ⟨List.cons_ne_nil _ _, rfl⟩

theorem append_of_isWhole {a : Settings} (h : a.IsWhole) (b : Settings) :
    (a.append b).settings = a.settings ++ b.settings ∧
      (a.append b).isComplete = (a.isComplete && b.isComplete) := by
  -- a comma at the end is no fault, so an empty list behind one is none
  have hend : ((if b.ending = .complete ∧ b.settings = [] then SettingsEnd.comma else b.ending) !=
      .broken) = (b.ending != .broken) := by
    split
    · rename_i hempty
      rw [hempty.1]
      rfl
    · rfl
  rw [isComplete_of_isWhole h, append, if_pos ⟨h.2, h.1⟩]
  refine ⟨rfl, ?_⟩
  rw [isComplete, isComplete, hend, Bool.not_or, Bool.and_left_comm]

theorem joined_cons {a : Settings} (h : a.IsWhole) (rest : List Settings) :
    (joined (a :: rest)).settings = a.settings ++ (joined rest).settings ∧
      (joined (a :: rest)).isComplete = (a.isComplete && (joined rest).isComplete) := by
  cases rest with
  | nil =>
    have hempty : isComplete empty = true := rfl
    simp [joined, hempty]
    rfl
  | cons b rest => exact append_of_isWhole h (joined (b :: rest))

theorem joined_append {as : List Settings} (h : ∀ a ∈ as, a.IsWhole) (bs : List Settings) :
    (joined (as ++ bs)).settings = (joined as).settings ++ (joined bs).settings ∧
      (joined (as ++ bs)).isComplete = ((joined as).isComplete && (joined bs).isComplete) := by
  induction as with
  | nil => exact ⟨rfl, rfl⟩
  | cons a as ih =>
    rw [List.forall_mem_cons] at h
    obtain ⟨hsettings, hcomplete⟩ := ih h.2
    obtain ⟨hall, hallComplete⟩ := joined_cons h.1 (as ++ bs)
    obtain ⟨hfront, hfrontComplete⟩ := joined_cons h.1 as
    rw [List.cons_append, hall, hallComplete, hfront, hfrontComplete, hsettings, hcomplete,
      List.append_assoc, Bool.and_assoc]
    exact ⟨rfl, rfl⟩

/-- Settings that are read one by one are read together. -/
theorem joined_singles {ss : List Settings}
    (h : ∀ s ∈ ss, ∃ t : Setting, s = single t ∧ t.isReadable = true) :
    (joined ss).settings.length = ss.length ∧ (joined ss).isReadable = true ∧
      (joined ss).cut = false := by
  have hjoined : (joined ss).settings.length = ss.length ∧
      (∀ t ∈ (joined ss).settings, t.isReadable = true) ∧ (joined ss).isComplete = true := by
    induction ss with
    | nil => exact ⟨rfl, List.forall_mem_nil _, rfl⟩
    | cons s ss ih =>
      rw [List.forall_mem_cons] at h
      obtain ⟨⟨t, rfl, ht⟩, hrest⟩ := h
      obtain ⟨hlength, hreadable, hcomplete⟩ := ih hrest
      obtain ⟨hsettings, hall⟩ := joined_cons (isWhole_single t) ss
      rw [hsettings, hall, hcomplete]
      refine ⟨?_, List.forall_mem_append.mpr ⟨?_, hreadable⟩, rfl⟩
      · rw [List.length_append, hlength, List.length_cons, Nat.add_comm]
        rfl
      · exact List.forall_mem_singleton.mpr ht
  obtain ⟨hlength, hreadable, hcomplete⟩ := hjoined
  rw [isComplete, Bool.and_eq_true, Bool.not_eq_true'] at hcomplete
  refine ⟨hlength, ?_, hcomplete.2⟩
  rw [isReadable, List.all_eq_true.mpr hreadable, hcomplete.1]
  rfl

end Settings

theorem settingsOfEach_eq_map (options : List AttributeOption) :
    settingsOfEach options = options.map AttributeOption.settings := by
  induction options with
  | nil => rfl
  | cons option rest ih => rw [settingsOfEach, ih, List.map_cons]

theorem haveTokens_eq_all (options : List AttributeOption) :
    haveTokens options = options.all AttributeOption.hasTokens := by
  induction options with
  | nil => rfl
  | cons option rest ih => rw [haveTokens, ih, List.all_cons]

/-! ## Options that are one setting -/

/-- Words with colons between them. -/
inductive PathWords : List Token → Prop where
  | last (name : String) (marked : Bool) : PathWords [.word name marked]
  | next {rest : List Token} (name : String) (marked joined : Bool) (h : PathWords rest) :
      PathWords (.word name marked :: .sign ':' true :: .sign ':' joined :: rest)

/-- The text is a path, which may start with colons. -/
inductive IsPath (text : String) : Prop where
  | plain {tokens : List Token} (hread : Token.readAll? text = some tokens) (h : PathWords tokens)
  | rooted {tokens : List Token} {joined : Bool} (h : PathWords tokens)
      (hread : Token.readAll? text = some (.sign ':' true :: .sign ':' joined :: tokens))

/-- The text is one expression. -/
def IsExpression (text : String) : Prop :=
  ∃ tokens after, Token.readAll? text = some tokens ∧
    (Rest.ofTokens tokens).expression? = some after ∧ after.isDone = true

/-- The word that the tokens are, if it is only one and has no mark. -/
def soleWord? : List Token → Option String
  | [.word name false] => some name
  | _ => none

namespace AttributeOption

def name : AttributeOption → String
  | flag name => name
  | text name _ => name
  | code name _ => name
  | nested name _ => name

/-- The name, if it is one word without a mark. -/
def word? (o : AttributeOption) : Option String := soleWord? (tokensOf o.name)

/-- There is an equals sign behind the name. -/
def isValued : AttributeOption → Bool
  | text _ _ => true
  | code _ _ => true
  | _ => false

/-- The option is one setting: a path alone, with a value, or with a list of such options. -/
inductive Plain : AttributeOption → Prop where
  | flag {name : String} (hname : IsPath name) : Plain (.flag name)
  | text {name : String} (hname : IsPath name) (value : String) : Plain (.text name value)
  | code {name source : String} (hname : IsPath name) (hsource : IsExpression source) :
      Plain (.code name source)
  | nested {name : String} {options : List AttributeOption} (hname : IsPath name)
      (hne : options ≠ []) (hall : ∀ o ∈ options, Plain o) : Plain (.nested name options)

end AttributeOption

namespace Settings

variable {tokens : List Token} {text : String}

theorem words?_of_pathWords (h : PathWords tokens) {n : Nat} (hn : tokens.length ≤ n) :
    words? n (.ofTokens tokens) = some (.ofTokens []) := by
  induction h generalizing n with
  | last name marked =>
    obtain ⟨n, rfl⟩ := Nat.exists_eq_add_of_le' hn
    rfl
  | next name marked joined h ih =>
    obtain ⟨n, rfl⟩ := Nat.exists_eq_add_of_le' hn
    exact ih (Nat.le_trans (Nat.le_add_right _ 2) (Nat.le_add_left _ n))

theorem plainName_of_pathWords (h : PathWords tokens) :
    plainName (.ofTokens tokens) (.ofTokens []) = soleWord? tokens := by
  cases h with
  | last name marked => cases marked <;> rfl
  | next name marked joined h => cases marked <;> rfl

theorem ofTokens_of_words (hne : tokens ≠ [])
    (h : words? (tokens.length + 1) ((Rest.ofTokens tokens).optionalSigns "::") =
      some (.ofTokens [])) :
    ofTokens tokens = single ⟨plainName (.ofTokens tokens) (.ofTokens []), .bare⟩ := by
  obtain ⟨first, rest, rfl⟩ := List.exists_cons_of_ne_nil hne
  show read (rest.length + 1) (.ofTokens (first :: rest)) = _
  unfold read
  rw [show (Rest.ofTokens (first :: rest)).tokens = first :: rest from rfl, h]
  rfl

/-- Reading a path gives one setting, which stands alone. -/
theorem ofTokens_of_isPath (h : IsPath text) :
    ofTokens (tokensOf text) = single ⟨soleWord? (tokensOf text), .bare⟩ := by
  cases h with
  | @plain tokens hread h =>
    have htokens : tokensOf text = tokens := by rw [tokensOf, hread, Option.getD_some]
    have hplain : (Rest.ofTokens tokens).optionalSigns "::" = .ofTokens tokens := by
      cases h <;> rfl
    have hne : tokens ≠ [] := by cases h <;> exact List.cons_ne_nil _ _
    rw [htokens, ← plainName_of_pathWords h]
    refine ofTokens_of_words hne ?_
    rw [hplain]
    exact words?_of_pathWords h (Nat.le_succ _)
  | @rooted tokens joined h hread =>
    rw [tokensOf, hread, Option.getD_some]
    exact ofTokens_of_words (List.cons_ne_nil _ _)
      (words?_of_pathWords h (Nat.le_add_right _ 3))

/-- A name alone and then a content that is read to its end. -/
theorem withContent_single (name : Option String) (content : SettingContent)
    (behind : Rest → Settings) {next : Rest} (hnext : next.isDone = true) :
    (single ⟨name, .bare⟩).withContent content behind (some next) = single ⟨name, content⟩ := by
  obtain ⟨tokens, cut⟩ := next
  rw [Rest.isDone, Bool.and_eq_true, Bool.not_eq_true'] at hnext
  obtain ⟨hempty, rfl⟩ := hnext
  obtain rfl := List.isEmpty_iff.mp hempty
  rfl

end Settings

namespace AttributeOption

theorem isSome_readAll?_of_isPath {text : String} (h : IsPath text) :
    (Token.readAll? text).isSome = true := by
  cases h with
  | plain hread | rooted _ hread => rw [hread]; rfl

/-- The value of a setting is read to the end of the expression that it is. -/
theorem exists_value_of_isExpression {source : String} (h : IsExpression source) :
    ∃ content next, Settings.value (.ofTokens (tokensOf source)) = (content, some next) ∧
      next.isDone = true ∧ ∀ name, Setting.isReadable ⟨name, content⟩ = true := by
  obtain ⟨tokens, next, hread, hexpression, hdone⟩ := h
  have htokens : tokensOf source = tokens := by rw [tokensOf, hread, Option.getD_some]
  rw [htokens, Settings.value, hexpression]
  split
  · refine ⟨_, _, rfl, hdone, fun name => ?_⟩
    dsimp only [Setting.isReadable]
    split <;> rfl
  · rename_i hnext _
    obtain rfl := Option.some.inj hnext
    exact ⟨_, _, rfl, hdone, fun _ => rfl⟩
  · rename_i hnext _
    cases hnext

/-- An option that is one setting is read as this setting, which may be passed over. -/
theorem Plain.settings {o : AttributeOption} (h : o.Plain) :
    o.hasTokens = true ∧ ∃ s : Setting, o.settings = .single s ∧ s.name = o.word? ∧
      s.isReadable = true ∧ (o.isValued = false → s.hasValue = false) := by
  induction h with
  | flag hname =>
    exact ⟨isSome_readAll?_of_isPath hname, _, Settings.ofTokens_of_isPath hname, rfl, rfl,
      fun _ => rfl⟩
  | text hname value =>
    refine ⟨isSome_readAll?_of_isPath hname, ⟨_, .text value .whole⟩, ?_, rfl, rfl, fun h => ?_⟩
    · rw [AttributeOption.settings, Settings.ofTokens_of_isPath hname]
      exact Settings.withContent_single _ _ _ rfl
    · cases h
  | @code name source hname hsource =>
    obtain ⟨content, next, hvalue, hdone, hreadable⟩ := exists_value_of_isExpression hsource
    have hsome : (Token.readAll? source).isSome = true := by
      obtain ⟨tokens, _, hread, _⟩ := hsource
      rw [hread]
      rfl
    refine ⟨?_, ⟨_, content⟩, ?_, rfl, hreadable _, fun h => ?_⟩
    · rw [hasTokens, isSome_readAll?_of_isPath hname, hsome]
      rfl
    · simp only [AttributeOption.settings, hvalue, Settings.ofTokens_of_isPath hname]
      exact Settings.withContent_single _ _ _ hdone
    · cases h
  | @nested name options hname hne hall ih =>
    have hsingles : ∀ inner ∈ settingsOfEach options,
        ∃ s : Setting, inner = .single s ∧ s.isReadable = true := by
      rw [settingsOfEach_eq_map, List.forall_mem_map]
      intro o ho
      obtain ⟨-, s, hs, -, hread, -⟩ := ih o ho
      exact ⟨s, hs, hread⟩
    obtain ⟨hlength, hreadable, hcut⟩ := Settings.joined_singles hsingles
    have hinside : (Settings.joined (settingsOfEach options)).settings ≠ [] := by
      rw [← List.length_pos_iff, hlength, settingsOfEach_eq_map, List.length_map,
        List.length_pos_iff]
      exact hne
    refine ⟨?_, ⟨_, .nested⟩, ?_, rfl, rfl, fun _ => rfl⟩
    · rw [hasTokens, isSome_readAll?_of_isPath hname, haveTokens_eq_all, Bool.true_and,
        List.all_eq_true]
      exact fun o ho => (ih o ho).1
    · simp only [AttributeOption.settings, Settings.ofTokens_of_isPath hname,
        if_pos (And.intro hinside hreadable), hcut]
      exact Settings.withContent_single _ _ _ rfl

theorem Plain.isWhole {o : AttributeOption} (h : o.Plain) : o.settings.IsWhole := by
  obtain ⟨-, s, hs, -⟩ := h.settings
  rw [hs]
  exact Settings.isWhole_single s

end AttributeOption
end Sift
