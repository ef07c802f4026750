import Mathlib.Logic.Relation
import Sift.Proofs.Derive.Given
import Sift.Proofs.Derive.Listed

/-!
# Attributes written in another way

Attributes can be split and merged, options that nobody asks for can be added and taken away, and
where nothing is given twice the order can be changed.  `Attribute.Step` is one such change and
`Attribute.Rearranged` any number of them, forth and back.  What a step keeps is
`SettingsAttribute.Alike`: the attributes still list settings, those that are passed over aside the
settings are the same in some order, and the last texts are the same (`Attribute.alike_of_step`).
-/

namespace Sift

/-! ## Attributes that say the same -/

namespace SettingsAttribute

theorem given_append (as bs : List SettingsAttribute) :
    given (as ++ bs) = given as ++ given bs :=
  List.flatMap_append

theorem listed_append {as bs : List SettingsAttribute} :
    Listed (as ++ bs) ↔ Listed as ∧ Listed bs :=
  List.forall_mem_append

theorem given_single (family : AttributeFamily) (listed : Settings) :
    given [⟨family, some listed⟩] = listed.settings.map (family, ·) :=
  List.flatMap_singleton _ _

theorem listed_single {family : AttributeFamily} {listed : Settings} :
    Listed [⟨family, some listed⟩] ↔ listed.isComplete = true := by
  simp [Listed]

/-- There is at most one text for each of the names. -/
def GivenOnce (names : List (AttributeFamily × String)) (attributes : List SettingsAttribute) :
    Prop :=
  ∀ n ∈ names, ((given attributes).filterMap (textFor n.1 n.2)).length ≤ 1

instance {names : List (AttributeFamily × String)} {attributes : List SettingsAttribute} :
    Decidable (GivenOnce names attributes) :=
  inferInstanceAs (Decidable (∀ n ∈ names, _))

/-- The attributes list the same settings in some order, apart from those that are ignored, and the
same last text for each of the names. -/
structure Alike (names : List (AttributeFamily × String))
    (Ignored : AttributeFamily × Setting → Prop) [DecidablePred Ignored]
    (as bs : List SettingsAttribute) : Prop where
  listed : Listed as ↔ Listed bs
  heard : ((given as).filter fun g => ¬ Ignored g).Perm ((given bs).filter fun g => ¬ Ignored g)
  texts : ∀ n ∈ names, lastText n.1 n.2 (given as) = lastText n.1 n.2 (given bs)

variable {names : List (AttributeFamily × String)} {Ignored : AttributeFamily × Setting → Prop}
  [DecidablePred Ignored] {as bs cs : List SettingsAttribute}

namespace Alike

theorem refl (as : List SettingsAttribute) : Alike names Ignored as as :=
  ⟨Iff.rfl, .refl _, fun _ _ => rfl⟩

theorem symm (h : Alike names Ignored as bs) : Alike names Ignored bs as :=
  ⟨h.listed.symm, h.heard.symm, fun n hn => (h.texts n hn).symm⟩

theorem trans (h : Alike names Ignored as bs) (h' : Alike names Ignored bs cs) :
    Alike names Ignored as cs :=
  ⟨h.listed.trans h'.listed, h.heard.trans h'.heard,
    fun n hn => (h.texts n hn).trans (h'.texts n hn)⟩

theorem append (h : Alike names Ignored as bs) (before after : List SettingsAttribute) :
    Alike names Ignored (before ++ as ++ after) (before ++ bs ++ after) where
  listed := by simp only [listed_append, h.listed]
  heard := by
    simp only [given_append, List.filter_append]
    exact (h.heard.append_left _).append_right _
  texts := by
    intro n hn
    simp only [given_append, lastText_append, h.texts n hn]

theorem of_given_eq (hlisted : Listed as ↔ Listed bs) (h : given as = given bs) :
    Alike names Ignored as bs where
  listed := hlisted
  heard := by rw [h]
  texts := by simp only [h, implies_true]

/-- Where each text is given once, the order does not matter. -/
theorem of_perm (h : as.Perm bs) (honce : GivenOnce names as) : Alike names Ignored as bs where
  listed := forall_congr' fun _ => imp_congr_left h.mem_iff
  heard := (h.flatMap_right _).filter _
  texts := by
    intro n hn
    have hperm : ((given as).filterMap (textFor n.1 n.2)).Perm
        ((given bs).filterMap (textFor n.1 n.2)) := (h.flatMap_right _).filterMap _
    have hlength := honce n hn
    rw [lastText, lastText]
    generalize (given as).filterMap (textFor n.1 n.2) = texts at hperm hlength ⊢
    cases texts with
    | nil => rw [hperm.nil_eq]
    | cons text rest =>
      have hrest : rest.length = 0 := Nat.le_zero.mp (Nat.le_of_succ_le_succ hlength)
      obtain rfl := List.length_eq_zero_iff.mp hrest
      rw [hperm.singleton_eq]

theorem mem_given_iff (h : Alike names Ignored as bs) {g : AttributeFamily × Setting}
    (hg : ¬ Ignored g) : g ∈ given as ↔ g ∈ given bs := by
  have hmem := h.heard.mem_iff (a := g)
  simpa [List.mem_filter, hg] using hmem

theorem wellFormed {Allowed : AttributeFamily × Setting → Prop}
    (hallowed : ∀ g, Ignored g → Allowed g) (h : Alike names Ignored as bs)
    (has : WellFormed Allowed as) : WellFormed Allowed bs := by
  refine ⟨h.listed.mp has.1, fun g hg => ?_⟩
  by_cases hignored : Ignored g
  · exact hallowed g hignored
  · exact has.2 g ((h.mem_given_iff hignored).mpr hg)

/-- What ignored settings have no part in is found in both or in none. -/
theorem any_given (h : Alike names Ignored as bs) {p : AttributeFamily × Setting → Bool}
    (hp : ∀ g, Ignored g → p g = false) : (given as).any p = (given bs).any p := by
  have hsame (g : AttributeFamily × Setting) : g ∈ given as ∧ p g = true ↔
      g ∈ given bs ∧ p g = true := by
    refine and_congr_left fun hg => h.mem_given_iff fun hignored => ?_
    rw [hp g hignored] at hg
    cases hg
  rw [Bool.eq_iff_iff, List.any_eq_true, List.any_eq_true]
  exact exists_congr hsame

end Alike
end SettingsAttribute

/-! ## Steps -/

namespace Attribute

/-- The attribute of this name says how a value is stored. -/
def IsStorage (name : String) : Prop := tokensOf name = [.word "serde" false]

/-- One way to write attributes otherwise, where the names are those that are asked for. -/
inductive Step (names : List (AttributeFamily × String)) (Idle : AttributeOption → Prop) :
    List Attribute → List Attribute → Prop where
  /-- Nothing that is asked for stands there twice, and the order is changed. -/
  | reorder {as bs : List Attribute} (hperm : as.Perm bs)
      (honce : SettingsAttribute.GivenOnce names (outlines as)) : Step names Idle as bs
  /-- An attribute is split in two. -/
  | split {name : String} {front back : List AttributeOption} {rest : List Attribute}
      (hfront : ∀ o ∈ front, o.settings.IsWhole) :
      Step names Idle (⟨name, .options (front ++ back)⟩ :: rest)
        (⟨name, .options front⟩ :: ⟨name, .options back⟩ :: rest)
  /-- An attribute of storage without options is added. -/
  | empty {name : String} {rest : List Attribute} (hname : IsStorage name) :
      Step names Idle rest (⟨name, .options []⟩ :: rest)
  /-- An option is added that nobody asks for. -/
  | idle {name : String} {front back : List AttributeOption} {o : AttributeOption}
      {rest : List Attribute} (hname : IsStorage name)
      (hfront : ∀ o ∈ front, o.settings.IsWhole) (ho : Idle o) :
      Step names Idle (⟨name, .options (front ++ back)⟩ :: rest)
        (⟨name, .options (front ++ o :: back)⟩ :: rest)
  /-- The first attribute stays as it is. -/
  | behind {as bs : List Attribute} (a : Attribute) (h : Step names Idle as bs) :
      Step names Idle (a :: as) (a :: bs)

/-- Attributes that come from others by steps, forth and back. -/
def Rearranged (names : List (AttributeFamily × String)) (Idle : AttributeOption → Prop) :
    List Attribute → List Attribute → Prop :=
  Relation.EqvGen (Step names Idle)

theorem outlines_append (as bs : List Attribute) :
    outlines (as ++ bs) = outlines as ++ outlines bs :=
  List.filterMap_append

theorem isWritten_options (name : String) (options : List AttributeOption) :
    isWritten ⟨name, .options options⟩ =
      (isWritten ⟨name, .absent⟩ && options.all AttributeOption.hasTokens) := by
  rw [← haveTokens_eq_all]
  simp [isWritten]

/-- What an attribute comes to goes by its family and its options. -/
theorem outlines_options (name : String) (options : List AttributeOption) :
    outlines [⟨name, .options options⟩] =
      (family? ⟨name, .absent⟩).toList.map fun family =>
        ⟨family, some (.joined (options.map AttributeOption.settings))⟩ := by
  rw [← settingsOfEach_eq_map]
  have hfamily : family? ⟨name, .options options⟩ = family? ⟨name, .absent⟩ := rfl
  cases h : family? ⟨name, .absent⟩ <;> simp [outlines, settings?, hfamily, h]

theorem outlines_of_isStorage {name : String} (h : IsStorage name)
    (options : List AttributeOption) :
    outlines [⟨name, .options options⟩] =
      [⟨.storage, some (.joined (options.map AttributeOption.settings))⟩] := by
  have hfamily : family? ⟨name, .absent⟩ = some .storage := by
    simp only [family?, show tokensOf name = [.word "serde" false] from h]
    rfl
  rw [outlines_options, hfamily]
  rfl

theorem isWritten_of_isStorage {name : String} (h : IsStorage name) :
    isWritten ⟨name, .absent⟩ = true := by
  simp only [isWritten, show tokensOf name = [.word "serde" false] from h]
  rfl

section

open SettingsAttribute

variable {names : List (AttributeFamily × String)} {Idle : AttributeOption → Prop}
  {Ignored : AttributeFamily × Setting → Prop} [DecidablePred Ignored] {as bs : List Attribute}

theorem alike_append (h : Alike names Ignored (outlines as) (outlines bs))
    (before after : List Attribute) :
    Alike names Ignored (outlines (before ++ as ++ after))
      (outlines (before ++ bs ++ after)) := by
  simp only [outlines_append]
  exact h.append _ _

theorem alike_split (name : String) {front : List AttributeOption}
    (hfront : ∀ o ∈ front, o.settings.IsWhole) (back : List AttributeOption) :
    Alike names Ignored (outlines [⟨name, .options (front ++ back)⟩])
      (outlines [⟨name, .options front⟩, ⟨name, .options back⟩]) := by
  obtain ⟨hsettings, hcomplete⟩ := Settings.joined_append (List.forall_mem_map.mpr hfront)
    (back.map AttributeOption.settings)
  have hsplit := outlines_append [⟨name, .options front⟩] [⟨name, .options back⟩]
  rw [List.singleton_append] at hsplit
  rw [hsplit, outlines_options, outlines_options, outlines_options, List.map_append]
  cases family? ⟨name, .absent⟩ with
  | none => exact .refl _
  | some family =>
    rw [Option.toList_some, List.map_singleton, List.map_singleton, List.map_singleton]
    refine .of_given_eq ?_ ?_
    · rw [listed_append, listed_single, listed_single, listed_single, hcomplete,
        Bool.and_eq_true]
    · rw [given_append, given_single, given_single, given_single, hsettings, List.map_append]

theorem alike_empty {name : String} (hname : IsStorage name) :
    Alike names Ignored (outlines []) (outlines [⟨name, .options []⟩]) := by
  rw [outlines_of_isStorage hname]
  refine .of_given_eq ?_ rfl
  rw [listed_single]
  exact iff_of_true (List.forall_mem_nil _) rfl

theorem alike_idle (hmute : ∀ g, Ignored g → ∀ n ∈ names, textFor n.1 n.2 g = none)
    {name : String} (hname : IsStorage name) {front : List AttributeOption}
    (hfront : ∀ o ∈ front, o.settings.IsWhole) {o : AttributeOption} {s : Setting}
    (ho : o.settings = .single s) (hignored : Ignored (.storage, s))
    (back : List AttributeOption) :
    Alike names Ignored (outlines [⟨name, .options (front ++ back)⟩])
      (outlines [⟨name, .options (front ++ o :: back)⟩]) := by
  have hwhole := List.forall_mem_map.mpr hfront
  obtain ⟨hsettings, hcomplete⟩ := Settings.joined_append hwhole
    (back.map AttributeOption.settings)
  obtain ⟨hsettings', hcomplete'⟩ := Settings.joined_append hwhole
    (.single s :: back.map AttributeOption.settings)
  obtain ⟨hmore, hmoreComplete⟩ := Settings.joined_cons (Settings.isWhole_single s)
    (back.map AttributeOption.settings)
  rw [outlines_of_isStorage hname, outlines_of_isStorage hname, List.map_append, List.map_append,
    List.map_cons, ho]
  constructor
  · rw [listed_single, listed_single, hcomplete, hcomplete', hmoreComplete]
    rfl
  · rw [given_single, given_single, hsettings, hsettings', hmore]
    simp [Settings.single, hignored]
  · intro n hn
    have hnone := hmute _ hignored n hn
    rw [given_single, given_single, hsettings, hsettings', hmore]
    simp [lastText, Settings.single, hnone]

/-- What a step keeps. -/
theorem alike_of_step (hmute : ∀ g, Ignored g → ∀ n ∈ names, textFor n.1 n.2 g = none)
    (hidle : ∀ o, Idle o →
      o.hasTokens = true ∧ ∃ s, o.settings = .single s ∧ Ignored (.storage, s))
    (h : Step names Idle as bs) :
    as.all isWritten = bs.all isWritten ∧ Alike names Ignored (outlines as) (outlines bs) := by
  induction h with
  | reorder hperm honce => exact ⟨hperm.all_eq, .of_perm (hperm.filterMap _) honce⟩
  | @split name front back rest hfront =>
    refine ⟨?_, alike_append (alike_split name hfront back) [] rest⟩
    simp only [List.all_cons, isWritten_options, List.all_append]
    cases isWritten ⟨name, .absent⟩ <;> simp [Bool.and_assoc]
  | @empty name rest hname =>
    refine ⟨?_, alike_append (alike_empty hname) [] rest⟩
    rw [List.all_cons, isWritten_options, isWritten_of_isStorage hname]
    rfl
  | @idle name front back o rest hname hfront ho =>
    obtain ⟨htokens, s, hs, hignored⟩ := hidle o ho
    refine ⟨?_, alike_append (alike_idle hmute hname hfront hs hignored back) [] rest⟩
    simp only [List.all_cons, isWritten_options, List.all_append, htokens, Bool.true_and]
  | @behind as bs a h ih =>
    obtain ⟨hwritten, halike⟩ := ih
    refine ⟨?_, ?_⟩
    · rw [List.all_cons, List.all_cons, hwritten]
    · simpa using alike_append halike [a] []

/-- What any number of steps keeps. -/
theorem alike_of_rearranged (hmute : ∀ g, Ignored g → ∀ n ∈ names, textFor n.1 n.2 g = none)
    (hidle : ∀ o, Idle o →
      o.hasTokens = true ∧ ∃ s, o.settings = .single s ∧ Ignored (.storage, s))
    (h : Rearranged names Idle as bs) :
    as.all isWritten = bs.all isWritten ∧ Alike names Ignored (outlines as) (outlines bs) := by
  induction h with
  | rel as bs h => exact alike_of_step hmute hidle h
  | refl as => exact ⟨rfl, .refl _⟩
  | symm as bs h ih => exact ⟨ih.1.symm, ih.2.symm⟩
  | trans as bs cs h h' ih ih' => exact ⟨ih.1.trans ih'.1, ih.2.trans ih'.2⟩

end

end Attribute

/-! ## Options that nobody asks for -/

namespace AttributeOption

/-- The option has no say in how a record is filtered. -/
def IdleOnRecord (o : AttributeOption) : Prop :=
  o.Plain ∧ ¬ (o.word? = some "rename_all" ∧ o.isValued = true)

/-- The option has no say in how a field is filtered. -/
def IdleOnField (o : AttributeOption) : Prop :=
  o.Plain ∧ ¬ (o.word? = some "rename" ∧ o.isValued = true) ∧ o.word? ≠ some "skip"

theorem Plain.idle {o : AttributeOption} (h : o.Plain) {name : String}
    (hother : ¬ (o.word? = some name ∧ o.isValued = true)) :
    o.hasTokens = true ∧ ∃ s : Setting, o.settings = .single s ∧ s.name = o.word? ∧
      s.isReadable = true ∧ ¬ GivesValue .storage name (.storage, s) := by
  obtain ⟨htokens, s, hs, hname, hreadable, hvalue⟩ := h.settings
  refine ⟨htokens, s, hs, hname, hreadable, ?_⟩
  rintro ⟨-, hgiven, hvalued⟩
  refine hother ⟨hname.symm.trans hgiven, ?_⟩
  rw [← Bool.not_eq_false]
  intro hbare
  rw [hvalue hbare] at hvalued
  cases hvalued

end AttributeOption

namespace RecordOptions

/-- The options that are asked for, each with its family. -/
def names : List (AttributeFamily × String) := [(.filter, "rename"), (.storage, "rename_all")]

/-- The setting is passed over. -/
def Ignored (g : AttributeFamily × Setting) : Prop :=
  g.1 = .storage ∧ g.2.isReadable = true ∧ ¬ GivesValue .storage "rename_all" g

instance : DecidablePred Ignored := fun _ => inferInstanceAs (Decidable (_ ∧ _ ∧ _))

theorem allowed_of_ignored {g : AttributeFamily × Setting} (h : Ignored g) : Allowed g := by
  obtain ⟨family, s⟩ := g
  obtain ⟨rfl, hreadable, hother⟩ := h
  simpa only [Allowed, if_neg hother] using hreadable

theorem textFor_of_ignored {g : AttributeFamily × Setting} (h : Ignored g) :
    ∀ n ∈ names, textFor n.1 n.2 g = Option.none := by
  obtain ⟨family, s⟩ := g
  obtain ⟨rfl, -, hother⟩ := h
  rw [names, List.forall_mem_cons, List.forall_mem_singleton]
  exact ⟨textFor_of_family nofun, textFor_of_no_value hother⟩

theorem ignored_of_idle {o : AttributeOption} (h : o.IdleOnRecord) :
    o.hasTokens = true ∧ ∃ s, o.settings = .single s ∧ Ignored (.storage, s) := by
  obtain ⟨htokens, s, hs, -, hreadable, hother⟩ := h.1.idle h.2
  exact ⟨htokens, s, hs, rfl, hreadable, hother⟩

theorem ofGiven_of_alike {as bs : List SettingsAttribute}
    (h : SettingsAttribute.Alike names Ignored as bs) :
    ofGiven (SettingsAttribute.given as) = ofGiven (SettingsAttribute.given bs) := by
  have htexts := h.texts
  rw [names, List.forall_mem_cons, List.forall_mem_singleton] at htexts
  rw [ofGiven, ofGiven, htexts.1, htexts.2]

end RecordOptions

namespace FieldOptions

/-- The options with a text that are asked for, each with its family. -/
def names : List (AttributeFamily × String) := [(.storage, "rename"), (.filter, "rename")]

/-- The setting is passed over. -/
def Ignored (g : AttributeFamily × Setting) : Prop :=
  g.1 = .storage ∧ g.2.isReadable = true ∧ ¬ GivesValue .storage "rename" g ∧
    g.2.name ≠ some "skip"

instance : DecidablePred Ignored := fun _ => inferInstanceAs (Decidable (_ ∧ _ ∧ _ ∧ _))

theorem allowed_of_ignored {g : AttributeFamily × Setting} (h : Ignored g) : Allowed g := by
  obtain ⟨family, s⟩ := g
  obtain ⟨rfl, hreadable, hother, hskip⟩ := h
  simpa only [Allowed, if_neg hother, if_neg hskip] using hreadable

theorem textFor_of_ignored {g : AttributeFamily × Setting} (h : Ignored g) :
    ∀ n ∈ names, textFor n.1 n.2 g = Option.none := by
  obtain ⟨family, s⟩ := g
  obtain ⟨rfl, -, hother, -⟩ := h
  rw [names, List.forall_mem_cons, List.forall_mem_singleton]
  exact ⟨textFor_of_no_value hother, textFor_of_family nofun⟩

theorem ignored_of_idle {o : AttributeOption} (h : o.IdleOnField) :
    o.hasTokens = true ∧ ∃ s, o.settings = .single s ∧ Ignored (.storage, s) := by
  obtain ⟨htokens, s, hs, hname, hreadable, hother⟩ := h.1.idle h.2.1
  exact ⟨htokens, s, hs, rfl, hreadable, hother, hname ▸ h.2.2⟩

theorem ofGiven_of_alike {as bs : List SettingsAttribute}
    (h : SettingsAttribute.Alike names Ignored as bs) :
    ofGiven (SettingsAttribute.given as) = ofGiven (SettingsAttribute.given bs) := by
  have htexts := h.texts
  rw [names, List.forall_mem_cons, List.forall_mem_singleton] at htexts
  have hskip := h.any_given (p := fun g => g.2 = skipped) fun g hg =>
    decide_eq_false fun hs => hg.2.2.2 (congrArg Setting.name hs)
  rw [ofGiven, ofGiven, htexts.1, htexts.2, hskip]

end FieldOptions
end Sift
