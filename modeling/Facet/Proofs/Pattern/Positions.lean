import Facet.Pattern.Positions

namespace Facet.Pattern.Positions

theorem testBit_toNat_add (b : Bool) (n i : Nat) :
    (b.toNat + 2 * n).testBit i = match i with
      | 0 => b
      | i + 1 => n.testBit i := by
  cases i with
  | zero =>
    rw [Nat.testBit_zero, Nat.add_mul_mod_self_left]
    cases b <;> rfl
  | succ i =>
    have hhalf : b.toNat / 2 = 0 := Nat.div_eq_of_lt b.toNat_lt
    rw [Nat.testBit_succ, Nat.add_mul_div_left _ _ Nat.two_pos, hhalf, Nat.zero_add]

theorem testBit_before (p : Char → Bool) (cs : List Char) (i : Nat) :
    (before p cs).testBit i = cs[i]?.any p := by
  induction cs generalizing i with
  | nil => simp [before]
  | cons c cs ih =>
    rw [before, testBit_toNat_add]
    cases i with
    | zero => simp
    | succ i => simp [ih]

theorem testBit_between_true (last : Option Char) (cs : List Char) (i : Nat) :
    (between (fun _ _ => true) last cs).testBit i = decide (i ≤ cs.length) := by
  induction cs generalizing last i with
  | nil => cases i <;> simp [between, Nat.testBit_succ]
  | cons c cs ih =>
    rw [between, testBit_toNat_add]
    cases i with
    | zero => simp
    | succ i => simp [ih]

theorem testBit_all (cs : List Char) (i : Nat) : (all cs).testBit i = decide (i ≤ cs.length) :=
  testBit_between_true none cs i

theorem testBit_start_iff {i : Nat} : start.testBit i = true ↔ i = 0 :=
  Nat.testBit_one_eq_true_iff_self_eq_zero

theorem testBit_advance_iff {p : Char → Bool} {cs : List Char} {s : Positions} {j : Nat} :
    (advance p cs s).testBit j = true ↔
      ∃ i c, j = i + 1 ∧ s.testBit i = true ∧ cs[i]? = some c ∧ p c = true := by
  cases j with
  | zero => simp [advance]
  | succ i => simp [advance, testBit_before, Option.any_eq_true]

def spell (cs word : List Char) (s : Positions) : Positions :=
  word.foldl (fun s c => advance (· == c) cs s) s

theorem cons_prefix_drop_iff {c : Char} {word cs : List Char} {i : Nat} :
    c :: word <+: cs.drop i ↔ cs[i]? = some c ∧ word <+: cs.drop (i + 1) := by
  rw [← List.tail_drop, ← List.head?_drop]
  cases cs.drop i with
  | nil => simp
  | cons d ds => simp [List.cons_prefix_cons, eq_comm]

theorem testBit_spell_iff {cs word : List Char} {s : Positions} {j : Nat} :
    (spell cs word s).testBit j = true ↔
      ∃ i, j = i + word.length ∧ s.testBit i = true ∧ word <+: cs.drop i := by
  induction word generalizing s with
  | nil => simp [spell]
  | cons c word ih =>
    rw [spell, List.foldl_cons, ← spell, ih, List.length_cons]
    constructor
    · rintro ⟨_, rfl, hi, hword⟩
      obtain ⟨i, d, rfl, hs, hd, hdc⟩ := testBit_advance_iff.1 hi
      obtain rfl := eq_of_beq hdc
      exact ⟨i, by omega, hs, cons_prefix_drop_iff.2 ⟨hd, hword⟩⟩
    · rintro ⟨i, rfl, hs, hword⟩
      obtain ⟨hc, hrest⟩ := cons_prefix_drop_iff.1 hword
      exact ⟨i + 1, by omega, testBit_advance_iff.2 ⟨i, c, rfl, hs, hc, beq_self_eq_true c⟩, hrest⟩

theorem atEnd_spell_start_iff {cs word : List Char} :
    (spell cs word start).atEnd cs = true ↔ word = cs := by
  rw [atEnd, testBit_spell_iff]
  constructor
  · rintro ⟨i, hlength, hi, hword⟩
    obtain rfl := testBit_start_iff.1 hi
    exact List.IsPrefix.eq_of_length hword (by simpa using hlength.symm)
  · rintro rfl
    exact ⟨0, by simp, testBit_start_iff.2 rfl, by simp⟩

theorem spell_all_ne_zero_iff {cs word : List Char} : spell cs word (all cs) ≠ 0 ↔ word <:+: cs := by
  rw [List.infix_iff_prefix_suffix]
  constructor
  · intro h
    obtain ⟨j, hj⟩ := Nat.exists_testBit_of_ne_zero h
    obtain ⟨i, -, -, hword⟩ := testBit_spell_iff.1 hj
    exact ⟨cs.drop i, hword, List.drop_suffix i cs⟩
  · rintro ⟨rest, hword, before, rfl⟩ hzero
    have hspell : (spell (before ++ rest) word (all (before ++ rest))).testBit
        (before.length + word.length) = true :=
      testBit_spell_iff.2 ⟨before.length, rfl, by simp [testBit_all], by simpa using hword⟩
    rw [hzero, Nat.zero_testBit] at hspell
    cases hspell

end Facet.Pattern.Positions
