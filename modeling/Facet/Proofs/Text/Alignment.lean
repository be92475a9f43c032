import Facet.Value.Debug
import Mathlib.Data.List.Forall2

/-!
Texts that end at the same place. Two texts are aligned when no continuation of them can hide where they
end; this is how a text is read piece by piece.
-/

namespace Facet.Text

theorem append_cons_inj {α : Type} {c : α} {u v w z : List α} (hu : c ∉ u) (hv : c ∉ v)
    (h : u ++ c :: w = v ++ c :: z) : u = v ∧ w = z := by
  induction u generalizing v with
  | nil =>
    cases v with
    | nil => exact ⟨rfl, (List.cons.inj h).2⟩
    | cons b v => exact absurd ((List.cons.inj h).1 ▸ List.mem_cons_self) hv
  | cons a u ih =>
    cases v with
    | nil => exact absurd ((List.cons.inj h).1 ▸ List.mem_cons_self) hu
    | cons b v =>
      obtain ⟨rfl, htail⟩ := List.cons.inj h
      obtain ⟨rfl, hrest⟩ := ih (fun hm => hu (List.mem_cons_of_mem _ hm))
        (fun hm => hv (List.mem_cons_of_mem _ hm)) htail
      exact ⟨rfl, hrest⟩

/-- If the two texts can be continued to the same text, they end at the same place and `P` holds. -/
def Aligned (P : Prop) (s t : String) : Prop :=
  ∀ x y : List Char, s.toList ++ x = t.toList ++ y → P ∧ x = y

namespace Aligned

variable {P Q : Prop} {s t u v : String}

theorem mono (h : Aligned P s t) (hPQ : P → Q) : Aligned Q s t := fun x y hxy =>
  (h x y hxy).imp hPQ id

theorem refl (s : String) : Aligned True s s := fun _ _ h => ⟨trivial, List.append_cancel_left h⟩

theorem append (h₁ : Aligned P s t) (h₂ : Aligned Q u v) : Aligned (P ∧ Q) (s ++ u) (t ++ v) := by
  intro x y h
  rw [String.toList_append, String.toList_append, List.append_assoc, List.append_assoc] at h
  obtain ⟨hP, h⟩ := h₁ _ _ h
  obtain ⟨hQ, h⟩ := h₂ _ _ h
  exact ⟨⟨hP, hQ⟩, h⟩

theorem enclose (before after : String) (h : Aligned P s t) :
    Aligned P (before ++ s ++ after) (before ++ t ++ after) :=
  (((refl before).append h).append (refl after)).mono fun h => h.1.2

theorem eq (h : Aligned P s t) (hst : s = t) : P := (h [] [] (by rw [hst])).1

theorem of_ne {a b : Char} {cs ds : List Char} (hs : s.toList = a :: cs) (ht : t.toList = b :: ds)
    (hab : a ≠ b) : Aligned P s t := by
  intro x y h
  rw [hs, ht, List.cons_append, List.cons_append] at h
  exact absurd (List.cons.inj h).1 hab

theorem of_not_mem {c : Char} {rest : String} {cs : List Char} (hrest : rest.toList = c :: cs)
    (hs : c ∉ s.toList) (ht : c ∉ t.toList) : Aligned (s = t) (s ++ rest) (t ++ rest) := by
  intro x y h
  rw [String.toList_append, String.toList_append, hrest, List.append_assoc, List.append_assoc] at h
  obtain ⟨heq, h⟩ := append_cons_inj hs ht (by simpa using h)
  exact ⟨String.toList_inj.1 heq, List.append_cancel_left h⟩

theorem intercalate {α β : Type} {R : α → β → Prop} {f : α → String} {g : β → String}
    (separator : String) {as : List α} {bs : List β}
    (h : List.Forall₂ (fun a b => Aligned (R a b) (f a) (g b)) as bs) :
    Aligned (List.Forall₂ R as bs) (separator.intercalate (as.map f))
      (separator.intercalate (bs.map g)) := by
  induction h with
  | nil => exact (refl _).mono fun _ => .nil
  | @cons a b as bs hab hrest ih =>
    cases hrest with
    | nil => simpa using hab.mono fun h => List.Forall₂.cons h .nil
    | cons _ _ =>
      simp only [List.map_cons, String.intercalate_cons_cons] at ih ⊢
      exact ((hab.append (refl separator)).append ih).mono fun h => .cons h.1.1 h.2

end Aligned

end Facet.Text
