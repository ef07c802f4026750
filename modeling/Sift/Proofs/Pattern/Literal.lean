import Mathlib.Data.List.Infix
import Mathlib.Data.String.Basic
import Sift.Pattern.Escape
import Sift.Pattern.Read

/-!
# Escaped text as a pattern

A text in its escaped form is read as the pattern with its characters one after the other
(`parse_escape`): each step of reading takes one of them, be it escaped or not, and adds it to the
branch.  No two characters make a construct, since all that begin one are escaped.

The pattern matches where the text stands within another (`isMatch_literal`), and its size grows
with the text alone (`fits_literal_iff`).
-/

namespace Sift
namespace Pattern

/-- The pattern with these characters one after the other. -/
def literal (cs : List Char) : Expr := Expr.concat (cs.map fun c => .one (.single c))

@[simp]
theorem literal_nil : literal [] = .empty := rfl

@[simp]
theorem literal_cons (c : Char) (cs : List Char) :
    literal (c :: cs) = .seq (.one (.single c)) (literal cs) := rfl

/-! ## Reading -/

/-- The state after a character. -/
def State.addChar (st : State) (c : Char) : State := st.addSimple (.one (.single c))

theorem parseFrom_of_step {st st' : State} {c : Char} {cs rest : List Char}
    (h : step st c cs = .ok (st', rest)) (hrest : rest <:+ cs) :
    parseFrom st (c :: cs) = parseFrom st' rest := by
  rw [parseFrom, h]
  simp only [bind, Except.bind]
  rw [← List.suffix_iff_eq_drop.mp hrest]

section

variable {st : State} {c : Char}

theorem step_of_plain (hflags : st.flags = .initial) (hclasses : st.classes = []) (c : Char)
    (cs : List Char) : step st c cs = plainStep st c cs := by
  simp [step, hflags, hclasses, Flags.initial]

theorem charExpr_initial (c : Char) : charExpr .initial c false = .ok (.one (.single c)) := by
  simp [charExpr, Flags.initial]

theorem step_of_not_isMeta (hflags : st.flags = .initial) (hclasses : st.classes = [])
    (hc : isMeta c = false) (cs : List Char) : step st c cs = .ok (st.addChar c, cs) := by
  rw [step_of_plain hflags hclasses]
  unfold plainStep
  split
  -- the characters with a rule of their own are all escaped
  all_goals try exact absurd hc (by decide)
  simp [hflags, charExpr_initial, State.addChar, bind, Except.bind, pure, Except.pure]

theorem isEscapable_of_isMeta (hc : isMeta c = true) : isEscapable c = true := by
  have hall : ∀ c ∈ metaCharacters, isEscapable c = true := List.all_eq_true.mp (by decide)
  exact hall c (List.contains_iff_mem.mp hc)

theorem step_of_isMeta (hflags : st.flags = .initial) (hclasses : st.classes = [])
    (hc : isMeta c = true) (cs : List Char) :
    step st '\\' (c :: cs) = .ok (st.addChar c, cs) := by
  rw [step_of_plain hflags hclasses]
  simp [plainStep, escaped, isEscapable_of_isMeta hc, atomExpr, hflags, charExpr_initial,
    State.addChar, bind, Except.bind, pure, Except.pure]

theorem parseFrom_escapeChars (hflags : st.flags = .initial) (hclasses : st.classes = [])
    (cs : List Char) : parseFrom st (escapeChars cs) = finish (cs.foldl State.addChar st) := by
  induction cs generalizing st with
  | nil => rw [escapeChars, parseFrom, List.foldl_nil]
  | cons c cs ih =>
    rw [escapeChars, List.foldl_cons, ← @ih (st.addChar c) hflags hclasses]
    cases hc : isMeta c with
    | false =>
      exact parseFrom_of_step (step_of_not_isMeta hflags hclasses hc _) List.suffix_rfl
    | true =>
      exact parseFrom_of_step (step_of_isMeta hflags hclasses hc _) (List.suffix_cons c _)

end

/-- A character as a part of a branch. -/
def charPart (c : Char) : Part := ⟨.one (.single c), 0⟩

theorem foldl_addChar (cs : List Char) (st : State) :
    cs.foldl State.addChar st =
      { st with level.parts := (cs.map fun c => some (charPart c)).reverse ++ st.level.parts } := by
  induction cs generalizing st with
  | nil => rfl
  | cons c cs ih =>
    rw [List.foldl_cons, ih]
    simp [State.addChar, State.addSimple, State.add, Level.add, charPart]

theorem branch_of_chars (cs : List Char) (isKept : Bool) :
    Level.branch ⟨none, (cs.map fun c => some (charPart c)).reverse, isKept⟩ =
      ⟨literal cs, if 2 ≤ cs.length then 1 else 0⟩ := by
  have hdepth : (cs.map charPart).foldl (fun depth p => Nat.max depth p.depth) 0 = 0 := by
    induction cs with
    | nil => rfl
    | cons c cs ih => exact ih
  have hparts : (cs.map fun c => some (charPart c)).filterMap id = cs.map charPart := by
    simp [List.filterMap_map]
  have hexpr : (cs.map charPart).map Part.expr = cs.map fun c => .one (.single c) := List.map_map
  simp only [Level.branch, List.reverse_reverse, hparts, hdepth, hexpr, List.length_reverse,
    List.length_map, literal]

/-- An escaped text is read as the pattern with its characters one after the other. -/
theorem parse_escape (text : String) : parse (escape text) = .ok (literal text.toList) := by
  rw [parse, escape, String.toList_ofList, parseFrom_escapeChars rfl rfl, foldl_addChar]
  have hdepth : (if 2 ≤ text.toList.length then 1 else 0) ≤ depthLimit := by split <;> decide
  simp [finish, State.initial, Level.empty, Level.close, Level.joined, branch_of_chars, hdepth]

/-! ## Matching -/

/-- The places of a text are before its suffixes. -/
theorem map_rest_placesFrom (index : Nat) (before : Option Char) (cs : List Char) :
    (placesFrom index before cs).map Place.rest = cs.tails := by
  induction cs generalizing index before with
  | nil => rfl
  | cons c cs ih => rw [placesFrom, List.map_cons, ih, List.tails]

theorem advance?_single {c : Char} {p q : Place} (h : p.advance? (.single c) = some q) :
    p.rest = c :: q.rest := by
  unfold Place.advance? at h
  split at h
  · rename_i d ds hrest
    split at h
    · rename_i hmem
      rw [← Option.some.inj h, hrest, (Class.mem_single c d).mp hmem]
    · cases h
  · cases h

theorem exists_advance?_single {c : Char} {p : Place} {ds : List Char} (h : p.rest = c :: ds) :
    ∃ q, p.advance? (.single c) = some q ∧ q.rest = ds := by
  simp [Place.advance?, h, (Class.mem_single c c).mpr rfl]

/-- A literal leads on from the places before its text. -/
theorem exists_mem_ends_literal_iff {cs : List Char} {ps : List Place} :
    (∃ q, q ∈ (literal cs).ends ps) ↔ ∃ p ∈ ps, cs <+: p.rest := by
  induction cs generalizing ps with
  | nil => simp [Expr.ends]
  | cons c cs ih =>
    simp only [literal_cons, Expr.ends, ih, List.mem_filterMap]
    constructor
    · rintro ⟨q, ⟨p, hp, hq⟩, hstart⟩
      refine ⟨p, hp, ?_⟩
      rw [advance?_single hq]
      exact List.cons_prefix_cons.mpr ⟨rfl, hstart⟩
    · rintro ⟨p, hp, ds, hrest⟩
      obtain ⟨q, hq, hqrest⟩ := exists_advance?_single hrest.symm
      exact ⟨q, ⟨p, hp, hq⟩, ds, hqrest.symm⟩

/-- A literal matches the texts in which it stands. -/
theorem isMatch_literal {cs : List Char} {text : String} :
    (literal cs).isMatch text = true ↔ cs <:+: text.toList := by
  have hends : (literal cs).isMatch text = true ↔ ∃ q, q ∈ (literal cs).ends (places text) := by
    simp [Expr.isMatch, List.eq_nil_iff_forall_not_mem]
  rw [hends, exists_mem_ends_literal_iff, List.infix_iff_prefix_suffix]
  constructor
  · rintro ⟨p, hp, hstart⟩
    have hmem : p.rest ∈ (places text).map Place.rest := List.mem_map_of_mem hp
    rw [places, map_rest_placesFrom, List.mem_tails] at hmem
    exact ⟨p.rest, hstart, hmem⟩
  · rintro ⟨t, hstart, hend⟩
    rw [← List.mem_tails, ← map_rest_placesFrom 0 none] at hend
    obtain ⟨p, hp, rfl⟩ := List.mem_map.mp hend
    exact ⟨p, hp, hstart⟩

/-! ## Size -/

theorem extent_single (c : Char) : (Class.single c).extent = [(c.toNat, c.toNat)] := by
  simp [Class.single, Class.extent, normalRanges, glue]

theorem footprint_single (c : Char) :
    (Expr.one (.single c)).footprint = .one (.text [c]) (textSize [c]) true false := by
  simp [Expr.footprint, Footprint.ofClass, extent_single]

theorem textSize_eq (cs : List Char) : textSize cs = .both (stateSize * String.utf8Len cs) := by
  have hfold : ∀ n, cs.foldl (fun n c => n + c.utf8Size) n = n + String.utf8Len cs := by
    induction cs with
    | nil => simp
    | cons c cs ih =>
      intro n
      rw [List.foldl_cons, ih, String.utf8Len_cons]
      omega
  rw [textSize, hfold, Nat.zero_add]

theorem textSize_cons (c : Char) (cs : List Char) :
    (textSize [c]).add (textSize cs) = textSize (c :: cs) := by
  simp [textSize_eq, Size.add, Size.both, Nat.mul_add, Nat.add_comm]

theorem footprint_literal (c : Char) (cs : List Char) :
    (literal (c :: cs)).footprint = .one (.text (c :: cs)) (textSize (c :: cs)) true false := by
  induction cs generalizing c with
  | nil =>
    rw [literal_cons, Expr.footprint, footprint_single]
    rfl
  | cons d cs ih =>
    rw [literal_cons, Expr.footprint, footprint_single, ih]
    simp [Footprint.seq, Footprint.isEmpty, Footprint.one, Footprint.size, textSize_cons]

/-- A literal is not too large if its text takes no more than 327673 bytes. -/
theorem fits_literal_iff {text : String} (h : text ≠ "") :
    (literal text.toList).fits = true ↔ text.utf8ByteSize ≤ 327673 := by
  have hbytes : String.utf8Len text.toList = text.utf8ByteSize := by
    rw [← String.utf8ByteSize_ofList, String.ofList_toList]
  cases hcs : text.toList with
  | nil => exact absurd (String.toList_eq_nil_iff.mp hcs) h
  | cons c cs =>
    rw [hcs] at hbytes
    simp only [Expr.fits, Expr.size, footprint_literal, Footprint.group, Footprint.one,
      Footprint.size, textSize_eq, hbytes, Size.add, Size.both, stateSize, forkSize, bytesSize,
      Expr.sizeLimit, Bool.and_eq_true, decide_eq_true_eq]
    omega

end Pattern
end Sift
