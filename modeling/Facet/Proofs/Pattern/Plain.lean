import Facet.Matcher.Value
import Facet.Proofs.Pattern.Positions
import Mathlib.Data.List.Infix

namespace Facet.Pattern

def specials : List Char :=
  ['\\', '.', '+', '*', '?', '(', ')', '|', '[', ']', '\x7b', '\x7d', '^', '$']

def Plain (cs : List Char) : Prop := ∀ c ∈ cs, c ∉ specials

instance (cs : List Char) : Decidable (Plain cs) := List.decidableBAll (· ∉ specials) cs

variable {word cs : List Char}

namespace Glob

theorem tokensFrom_of_plain (h : Plain word) (last : Option Char) :
    tokensFrom last word = some (word.map .char) := by
  induction word generalizing last with
  | nil => simp [tokensFrom]
  | cons c word ih =>
    obtain ⟨hc, hword⟩ := List.forall_mem_cons.1 h
    simp only [specials, List.mem_cons, List.not_mem_nil, not_or] at hc
    simp [tokensFrom, hc, ih hword]

theorem image_char (c : Char) (s : Positions) :
    (Token.char c).image cs s = Positions.advance (· == c) cs s := by
  have haccepts : (Token.char c).accepts = (· == c) := funext fun _ => BEq.comm
  rw [Token.image, haccepts] <;> nofun

theorem accepts_of_plain {p : String} (h : Plain p.toList) (s : String) :
    (ofText? p).any (·.accepts s) = (s == p) := by
  rw [Bool.eq_iff_iff, ofText?, tokensFrom_of_plain h]
  simp only [Option.map_some, Option.any_some, accepts, List.foldl_map, image_char, beq_iff_eq]
  rw [← Positions.spell, Positions.atEnd_spell_start_iff, String.toList_inj, eq_comm]

end Glob

namespace Regex

def letter (c : Char) : Piece := .plain (.char (CharSet.one c)) (c.utf8Size * Piece.stateSize)

variable {s : State}

theorem step_of_plain {c : Char} (hc : c ∉ specials) (hs : s.modes = .initial) :
    step s (c :: cs) = some (s.push (letter c), cs) := by
  have hatom : pushAtom s c (.literal c false, cs) = some (s.push (letter c), cs) := by
    simp [pushAtom, hs, Modes.literal?, Modes.fold, Modes.initial, State.pushSet, letter]
  simp only [specials, List.mem_cons, List.not_mem_nil, not_or] at hc
  simp [step, hc, hatom]

theorem skip_of_initial (hs : s.modes = .initial) (cs : List Char) : s.modes.skip cs = cs := by
  rw [hs]
  rfl

theorem readAll_of_plain (h : Plain cs) (hs : s.modes = .initial) :
    readAll s cs = some { s with pieces := (cs.map letter).reverse ++ s.pieces } := by
  induction cs generalizing s with
  | nil =>
    rw [readAll, skip_of_initial hs]
    rfl
  | cons c cs ih =>
    obtain ⟨hc, hcs⟩ := List.forall_mem_cons.1 h
    have hpush : (s.push (letter c)).modes = .initial := hs
    rw [readAll, skip_of_initial hs]
    simp only [step_of_plain hc hs, List.length_cons, Nat.lt_succ_self, if_true]
    rw [ih hcs hpush]
    simp [State.push]

theorem depth_sequence_letters (word : List Char) : (Piece.sequence (word.map letter)).depth ≤ 1 := by
  have hfold (word : List Char) : (word.map letter).foldl (fun d q => max d q.depth) 0 = 0 := by
    induction word with
    | nil => rfl
    | cons c word ih => exact ih
  match word with
  | [] => exact Nat.zero_le 1
  | [c] => exact Nat.zero_le 1
  | c :: d :: word => exact Nat.le_of_eq (congrArg (· + 1) (hfold (d :: word)))

theorem unfolded_sequence_letters (word : List Char) : (Piece.sequence (word.map letter)).unfolded = 0 := by
  have hfold (word : List Char) : (word.map letter).foldl (fun n q => n + q.unfolded) 0 = 0 := by
    induction word with
    | nil => rfl
    | cons c word ih => exact ih
  match word with
  | [] => rfl
  | [c] => rfl
  | c :: d :: word => exact hfold (d :: word)

theorem image_foldl_seq (cs : List Char) (ps : List Piece) (r : Regex) (s : Positions) :
    (ps.foldl (fun r p => .seq p.regex r) r).image cs s =
      r.image cs (ps.foldr (fun p s => p.regex.image cs s) s) := by
  induction ps generalizing r with
  | nil => rfl
  | cons p ps ih => exact ih (.seq p.regex r)

theorem image_sequence (cs : List Char) (ps : List Piece) (s : Positions) :
    (Piece.sequence ps).regex.image cs s = ps.foldr (fun p s => p.regex.image cs s) s := by
  match ps with
  | [] | [_] => rfl
  | p :: q :: ps => exact image_foldl_seq cs (q :: ps) p.regex s

def ofWord (word : List Char) : Regex := (Piece.sequence (word.map letter).reverse).regex

theorem image_ofWord (cs word : List Char) (s : Positions) :
    (ofWord word).image cs s = Positions.spell cs word s := by
  rw [ofWord, image_sequence, List.foldr_reverse, List.foldl_map]
  rfl

theorem ofText?_of_plain {p : String} (h : Plain p.toList) : ofText? p = some (ofWord p.toList) := by
  have hdepth := depth_sequence_letters p.toList.reverse
  have hunfolded := unfolded_sequence_letters p.toList.reverse
  rw [List.map_reverse] at hdepth hunfolded
  have hlimits : (Piece.sequence (p.toList.map letter).reverse).depth ≤ depthLimit ∧
      (Piece.sequence (p.toList.map letter).reverse).unfolded ≤ unfoldedLimit :=
    ⟨Nat.le_trans hdepth (by decide), hunfolded ▸ Nat.zero_le _⟩
  simp [ofText?, readAll_of_plain h, State.initial, State.whole, Piece.choice, hlimits, ofWord]

theorem occursIn_of_plain {p : String} (h : Plain p.toList) (s : String) :
    (ofText? p).any (·.occursIn s) = decide (p.toList <:+: s.toList) := by
  rw [ofText?_of_plain h, Option.any_some, occursIn, image_ofWord, Bool.eq_iff_iff, bne_iff_ne,
    Positions.spell_all_ne_zero_iff, decide_eq_true_iff]

end Regex

theorem isMatch_of_plain {p : Pattern} (h : Plain p.text.toList) (s : String) :
    p.isMatch s = decide (p.text.toList <:+: s.toList) := by
  rw [isMatch, Glob.accepts_of_plain h, Regex.occursIn_of_plain h]
  -- What equals the pattern has the pattern as a part.
  cases hs : s == p.text with
  | false => simp
  | true => simp [eq_of_beq hs]

/-- A plain pattern matches the texts that it is a part of, which is its reading as a regular expression.
As a glob it matches itself alone, and so it does as it stands. -/
theorem plain_matches_iff_infix (p : Pattern) (h : Plain p.text.toList) :
    (∀ (t : Ty) (textual : Textual t) (a : t.Val),
      ((Matcher.criterion (.pattern textual p) : ValueMatcher t).test a).outcome =
        .ok (decide (p.text.toList <:+: (textual.text a).toList))) ∧
    (∀ s, p.isMatch s = true ↔ p.text.toList <:+: s.toList) ∧
    (∀ s, (Regex.ofText? p.text).any (·.occursIn s) = p.isMatch s) ∧
    (∀ s, (Glob.ofText? p.text).any (·.accepts s) = (s == p.text)) ∧
    (p.text = "" → ∀ s, p.isMatch s = true) := by
  have hmatch (s : String) := isMatch_of_plain h s
  refine ⟨fun t textual a => ?_, fun s => ?_, fun s => ?_, Glob.accepts_of_plain h, fun hempty s => ?_⟩
  · exact congrArg Except.ok (hmatch _)
  · rw [hmatch, decide_eq_true_iff]
  · rw [hmatch, Regex.occursIn_of_plain h]
  · rw [hmatch, decide_eq_true_iff, hempty]
    exact List.nil_infix

theorem plain_matches_iff_infix_blank :
    let p : Pattern := ⟨"m -!"⟩
    Plain p.text.toList ∧ p.isMatch "npm -!x" = true ∧ ¬ p.isMatch "npm - !" = true := by
  intro p
  have hp : Plain p.text.toList := by decide
  obtain ⟨-, hmatch, -⟩ := plain_matches_iff_infix p hp
  have hinside : p.text.toList <:+: "npm -!x".toList := by decide +kernel
  have hapart : ¬ p.text.toList <:+: "npm - !".toList := by decide +kernel
  exact ⟨hp, (hmatch "npm -!x").2 hinside, mt (hmatch "npm - !").1 hapart⟩

end Facet.Pattern
