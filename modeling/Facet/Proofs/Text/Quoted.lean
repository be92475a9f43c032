import Facet.Proofs.Number.Numeral
import Facet.Proofs.Text.Alignment

namespace Facet.Text

open Number

def unescape : List Char → Option (Char × List Char)
  | [] => none
  | c :: cs =>
    if c ≠ '\\' then some (c, cs)
    else match cs with
      | [] => none
      | d :: ds =>
        if d = '0' then some ('\x00', ds)
        else if d = 't' then some ('\t', ds)
        else if d = 'r' then some ('\r', ds)
        else if d = 'n' then some ('\n', ds)
        else if d = 'u' then
          some (Char.ofNat (natOfDigits 16 ((ds.drop 1).takeWhile (· ≠ '\x7d'))),
            ((ds.drop 1).dropWhile (· ≠ '\x7d')).drop 1)
        else some (d, ds)

theorem ne_brace_of_mem_hexDigits {n : Nat} {c : Char} (h : c ∈ hexDigits n) : c ≠ '\x7d' := by
  rintro rfl
  exact absurd (digitValue_lt_of_mem_toDigits (by decide) (by decide) h) (by decide)

theorem unescape_codePoint (c : Char) (x : List Char) :
    unescape (['\\', 'u', '\x7b'] ++ hexDigits c.toNat ++ ['\x7d'] ++ x) = some (c, x) := by
  have hdigits : ∀ d ∈ hexDigits c.toNat, decide (d ≠ '\x7d') = true := fun d hd =>
    decide_eq_true (ne_brace_of_mem_hexDigits hd)
  have htake : (hexDigits c.toNat ++ '\x7d' :: x).takeWhile (· ≠ '\x7d') = hexDigits c.toNat := by
    rw [List.takeWhile_append_of_pos hdigits]
    simp
  have hdrop : (hexDigits c.toNat ++ '\x7d' :: x).dropWhile (· ≠ '\x7d') = '\x7d' :: x := by
    rw [List.dropWhile_append_of_pos hdigits]
    simp
  have hvalue : natOfDigits 16 (hexDigits c.toNat) = c.toNat :=
    natOfDigits_toDigits (by decide) (by decide) _
  simp only [unescape, List.cons_append, List.nil_append, List.append_assoc, List.drop_succ_cons,
    List.drop_zero, htake, hdrop, hvalue, Char.ofNat_toNat]
  rfl

def isLetter (c : Char) : Bool := c ∈ ['0', 't', 'r', 'n', 'u']

theorem unescape_backslash {c : Char} (hc : isLetter c = false) (x : List Char) :
    unescape ('\\' :: c :: x) = some (c, x) := by
  simp only [isLetter, List.mem_cons, List.not_mem_nil, or_false, decide_eq_false_iff_not, not_or] at hc
  simp [unescape, hc]

theorem unescape_escape {mark : Char} (hmark : isLetter mark = false) (c : Char) (x : List Char) :
    unescape (escape mark c ++ x) = some (c, x) := by
  simp only [escape]
  split
  next h => subst h; rfl
  split
  next h => subst h; rfl
  split
  next h => subst h; rfl
  split
  next h => subst h; rfl
  split
  next h =>
    refine unescape_backslash ?_ x
    rcases h with rfl | rfl
    · rfl
    · exact hmark
  next h =>
    split
    · have hc : c ≠ '\\' := fun hc => h (.inl hc)
      simp [unescape, hc]
    · exact unescape_codePoint c x

theorem escape_append_inj {mark c d : Char} {x y : List Char} (hmark : isLetter mark = false)
    (h : escape mark c ++ x = escape mark d ++ y) : c = d ∧ x = y := by
  have hread := congrArg unescape h
  rw [unescape_escape hmark, unescape_escape hmark] at hread
  exact Prod.mk.inj (Option.some.inj hread)

theorem exists_escape_eq_cons {mark : Char} (hmark : mark ≠ '\\') (c : Char) :
    ∃ d ds, escape mark c = d :: ds ∧ d ≠ mark := by
  simp only [escape]
  split
  · exact ⟨_, _, rfl, hmark.symm⟩
  split
  · exact ⟨_, _, rfl, hmark.symm⟩
  split
  · exact ⟨_, _, rfl, hmark.symm⟩
  split
  · exact ⟨_, _, rfl, hmark.symm⟩
  split
  · exact ⟨_, _, rfl, hmark.symm⟩
  next h =>
    split
    · exact ⟨_, _, rfl, fun hc => h (.inr hc)⟩
    · exact ⟨_, _, rfl, hmark.symm⟩

theorem escapeAll_append_inj {mark : Char} (hletter : isLetter mark = false) (hmark : mark ≠ '\\')
    {cs ds x y : List Char} (h : escapeAll mark cs ++ mark :: x = escapeAll mark ds ++ mark :: y) :
    cs = ds ∧ x = y := by
  induction cs generalizing ds with
  | nil =>
    cases ds with
    | nil => exact ⟨rfl, (List.cons.inj h).2⟩
    | cons d ds =>
      obtain ⟨e, es, he, hne⟩ := exists_escape_eq_cons hmark d
      simp only [escapeAll_nil, escapeAll_cons, he, List.nil_append, List.cons_append] at h
      exact absurd (List.cons.inj h).1.symm hne
  | cons c cs ih =>
    cases ds with
    | nil =>
      obtain ⟨e, es, he, hne⟩ := exists_escape_eq_cons hmark c
      simp only [escapeAll_nil, escapeAll_cons, he, List.nil_append, List.cons_append] at h
      exact absurd (List.cons.inj h).1 hne
    | cons d ds =>
      simp only [escapeAll_cons, List.append_assoc] at h
      obtain ⟨rfl, hrest⟩ := escape_append_inj hletter h
      obtain ⟨rfl, hxy⟩ := ih hrest
      exact ⟨rfl, hxy⟩

theorem aligned_quote (s t : String) : Aligned (s = t) (quote s) (quote t) := by
  intro x y h
  simp only [quote, String.toList_ofList, List.cons_append, List.append_assoc, List.nil_append] at h
  obtain ⟨hst, hxy⟩ := escapeAll_append_inj (by decide) (by decide) (List.cons.inj h).2
  exact ⟨String.toList_inj.1 hst, hxy⟩

theorem aligned_quoteChar (c d : Char) : Aligned (c = d) (quoteChar c) (quoteChar d) := by
  intro x y h
  simp only [quoteChar, String.toList_ofList, List.cons_append, List.append_assoc, List.nil_append] at h
  obtain ⟨hcd, hxy⟩ := escape_append_inj (by decide) (List.cons.inj h).2
  exact ⟨hcd, (List.cons.inj hxy).2⟩

end Facet.Text
