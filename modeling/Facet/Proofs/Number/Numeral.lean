import Facet.Number.Literal
import Facet.Number.Style
import Mathlib.Data.List.Basic

namespace Facet.Number

def isNumeral (c : Char) : Bool := c.isDigit || c ∈ ['-', '+', '.', 'e', 'i', 'n', 'f', 'N', 'a']

theorem isNumeral_of_mem_toDigits {c : Char} {n : Nat} (h : c ∈ Nat.toDigits 10 n) :
    isNumeral c := by
  simp [isNumeral, Nat.isDigit_of_mem_toDigits (by decide) (by decide) h]

theorem isNumeral_of_mem_repr {c : Char} {n : Int} (h : c ∈ (toString n).toList) :
    isNumeral c := by
  rw [Int.toString_eq_repr, Int.repr_eq_if] at h
  split at h
  · exact isNumeral_of_mem_toDigits (by simpa using h)
  · rw [String.toList_append, Nat.toList_repr] at h
    rcases List.mem_append.1 h with h | h
    · cases List.mem_singleton.1 h
      decide
    · exact isNumeral_of_mem_toDigits h

theorem digitValue_digitChar : ∀ d < 16, digitValue d.digitChar = d := by decide

theorem natOfDigits_concat (radix : Nat) (cs : List Char) (c : Char) :
    natOfDigits radix (cs ++ [c]) = radix * natOfDigits radix cs + digitValue c := by
  simp [natOfDigits]

theorem natOfDigits_toDigits {radix : Nat} (hradix : 1 < radix) (hle : radix ≤ 16) (n : Nat) :
    natOfDigits radix (Nat.toDigits radix n) = n := by
  induction n using Nat.strongRecOn with
  | _ n ih =>
    rw [Nat.toDigits_eq_if hradix]
    split
    next hn => simp [natOfDigits, digitValue_digitChar n (by omega)]
    next hn =>
      have hmod : n % radix < 16 := Nat.lt_of_lt_of_le (Nat.mod_lt n (by omega)) hle
      rw [natOfDigits_concat, ih _ (Nat.div_lt_self (by omega) hradix), digitValue_digitChar _ hmod,
        Nat.div_add_mod]

theorem digitValue_lt_of_mem_toDigits {radix n : Nat} {c : Char} (hradix : 1 < radix) (hle : radix ≤ 16)
    (h : c ∈ Nat.toDigits radix n) : digitValue c < 16 := by
  induction n using Nat.strongRecOn with
  | _ n ih =>
    rw [Nat.toDigits_eq_if hradix] at h
    split at h
    next hn =>
      cases List.mem_singleton.1 h
      rw [digitValue_digitChar n (by omega)]
      omega
    next hn =>
      have hmod : n % radix < 16 := Nat.lt_of_lt_of_le (Nat.mod_lt n (by omega)) hle
      rcases List.mem_append.1 h with h | h
      · exact ih _ (Nat.div_lt_self (by omega) hradix) h
      · cases List.mem_singleton.1 h
        rwa [digitValue_digitChar _ hmod]

namespace Style

variable {s : Style} {digits : List Char} {c : Char}

theorem isNumeral_of_mem_place {x : Int} (hd : ∀ d ∈ digits, isNumeral d)
    (h : c ∈ s.place digits x) : isNumeral c := by
  have hzero : isNumeral '0' := by decide
  have hpoint : isNumeral '.' := by decide
  simp only [place] at h
  split at h
  · simp only [List.mem_cons, List.mem_append, List.mem_replicate] at h
    rcases h with rfl | rfl | ⟨-, rfl⟩ | h
    · exact hzero
    · exact hpoint
    · exact hzero
    · exact hd c h
  · split at h
    · simp only [List.mem_append, List.mem_replicate] at h
      rcases h with (h | ⟨-, rfl⟩) | h
      · exact hd c h
      · exact hzero
      · split at h <;> simp at h
        rcases h with rfl | rfl
        · exact hpoint
        · exact hzero
    · simp only [List.mem_append, List.mem_cons] at h
      rcases h with h | rfl | h
      · exact hd c (List.mem_of_mem_take h)
      · exact hpoint
      · exact hd c (List.mem_of_mem_drop h)

theorem isNumeral_of_mem_exponential {x : Int} (hd : ∀ d ∈ digits, isNumeral d)
    (h : c ∈ s.exponential digits x) : isNumeral c := by
  simp only [exponential, List.mem_append, List.mem_cons] at h
  rcases h with ((h | h) | rfl | h) | h
  · exact hd c (List.mem_of_mem_take h)
  · split at h
    · cases h
    · rcases List.mem_cons.1 h with rfl | h
      · decide
      · exact hd c (List.mem_of_mem_drop h)
  · decide
  · split at h
    · cases List.mem_singleton.1 h
      decide
    · split at h
      · cases List.mem_singleton.1 h
        decide
      · cases h
  · exact isNumeral_of_mem_toDigits h

theorem isNumeral_of_mem_magnitude {f : Format} {m : Nat} {e : Int} (h : c ∈ s.magnitude f m e) :
    isNumeral c := by
  simp only [magnitude] at h
  split at h
  · exact isNumeral_of_mem_place (by simp [isNumeral]) h
  · split at h
    · exact isNumeral_of_mem_place (fun _ => isNumeral_of_mem_toDigits) h
    · exact isNumeral_of_mem_exponential (fun _ => isNumeral_of_mem_toDigits) h

theorem isNumeral_of_mem_write {f : Format} {x : Binary f} (h : c ∈ (s.write x).toList) :
    isNumeral c := by
  cases x with
  | nan => exact List.all_eq_true.1 (by decide : "NaN".toList.all isNumeral) c h
  | infinite t =>
    cases t with
    | false => exact List.all_eq_true.1 (by decide : "inf".toList.all isNumeral) c h
    | true => exact List.all_eq_true.1 (by decide : "-inf".toList.all isNumeral) c h
  | finite t m e _ =>
    simp only [write, String.toList_ofList, List.mem_append] at h
    rcases h with h | h
    · cases t with
      | false => cases h
      | true =>
        cases List.mem_singleton.1 h
        decide
    · exact isNumeral_of_mem_magnitude h

end Style

end Facet.Number
