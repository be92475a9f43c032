import Facet.Proofs.Number.Numeral
import Facet.Proofs.Text.Alignment
import Mathlib

/-!
Texts from which the values can be read. A number has no mark at its end, so what follows it must tell; the
marks that follow a value inside a larger text are few, and no value starts with one of them.
-/

namespace Facet.Text

open Number

def isStop (c : Char) : Bool := c ∈ [',', ')', ']', '\x7d', '>', ':', ' ']

def stops : List Char → Bool
  | [] => true
  | c :: _ => isStop c

theorem stops_append {u x : List Char} (hu : stops u) (hx : stops x) : stops (u ++ x) := by
  cases u with
  | nil => exact hx
  | cons c u => exact hu

theorem not_stops_append {u : List Char} (hu : ¬ stops u) (x : List Char) : ¬ stops (u ++ x) := by
  cases u with
  | nil => exact absurd rfl hu
  | cons c u => exact hu

theorem append_inj_of_stops {u v x y : List Char} (hu : ∀ c ∈ u, ¬ isStop c)
    (hv : ∀ c ∈ v, ¬ isStop c) (hx : stops x) (hy : stops y) (h : u ++ x = v ++ y) : u = v ∧ x = y := by
  induction u generalizing v with
  | nil =>
    cases v with
    | nil => exact ⟨rfl, h⟩
    | cons d v =>
      rw [List.nil_append] at h
      subst h
      exact absurd hx (hv d List.mem_cons_self)
  | cons c u ih =>
    cases v with
    | nil =>
      rw [List.nil_append] at h
      subst h
      exact absurd hy (hu c List.mem_cons_self)
    | cons d v =>
      obtain ⟨rfl, htail⟩ := List.cons.inj h
      obtain ⟨rfl, hxy⟩ := ih (fun e he => hu e (List.mem_cons_of_mem _ he))
        (fun e he => hv e (List.mem_cons_of_mem _ he)) htail
      exact ⟨rfl, hxy⟩

/-- The value and the end of its text are known from the text and what follows it. -/
structure Legible {α : Type} (write : α → String) : Prop where
  opens (a : α) : ¬ stops (write a).toList
  reads {a b : α} {x y : List Char} : stops x → stops y →
    (write a).toList ++ x = (write b).toList ++ y → a = b ∧ x = y

namespace Legible

variable {α β : Type} {write : α → String}

theorem of_aligned (hopens : ∀ a, ¬ stops (write a).toList)
    (h : ∀ a b, Aligned (a = b) (write a) (write b)) : Legible write where
  opens := hopens
  reads _ _ heq := h _ _ _ _ heq

theorem of_head (head : α → Char) (tail : α → List Char)
    (h : ∀ a, (write a).toList = head a :: tail a) (hstop : ∀ a, ¬ isStop (head a))
    (hhead : ∀ a b, head a = head b → a = b) : Legible write where
  opens a := by
    rw [h a]
    exact hstop a
  reads := by
    intro a b x y _ _ heq
    rw [h a, h b, List.cons_append, List.cons_append] at heq
    obtain rfl := hhead a b (List.cons.inj heq).1
    exact ⟨rfl, List.append_cancel_left (List.cons.inj heq).2⟩

theorem eq_of_eq (h : Legible write) {a b : α} (hab : write a = write b) : a = b := by
  have htext : (write a).toList ++ [] = (write b).toList ++ [] := by rw [hab]
  exact (h.reads rfl rfl htext).1

theorem comp {f : β → α} (h : Legible write) (hf : ∀ a b, f a = f b → a = b) :
    Legible fun b => write (f b) where
  opens b := h.opens (f b)
  reads hx hy heq := (h.reads hx hy heq).imp (hf _ _) id

theorem not_isStop_of_isNumeral {c : Char} (h : isNumeral c) : ¬ isStop c := by
  intro hstop
  simp only [isStop, List.mem_cons, List.not_mem_nil, or_false, decide_eq_true_eq] at hstop
  rcases hstop with rfl | rfl | rfl | rfl | rfl | rfl | rfl <;> exact absurd h (by decide)

theorem toString_ne_empty (n : Int) : toString n ≠ "" := by
  rw [Int.toString_eq_repr, Int.repr_eq_if]
  split
  · exact Nat.repr_ne_empty
  · simp

theorem integer : Legible (toString : Int → String) where
  opens n := by
    intro hstops
    cases hn : (toString n).toList with
    | nil => exact toString_ne_empty n (String.toList_eq_nil_iff.1 hn)
    | cons c cs =>
      rw [hn] at hstops
      exact not_isStop_of_isNumeral (isNumeral_of_mem_repr (hn ▸ List.mem_cons_self)) hstops
  reads := by
    intro m n x y hx hy h
    obtain ⟨htext, hxy⟩ := append_inj_of_stops
      (fun _ hc => not_isStop_of_isNumeral (isNumeral_of_mem_repr hc))
      (fun _ hc => not_isStop_of_isNumeral (isNumeral_of_mem_repr hc)) hx hy h
    exact ⟨Int.repr_inj.1 (String.toList_inj.1 htext), hxy⟩

theorem enclose (h : Legible write) (before after : String) (hbefore : ¬ stops before.toList)
    (hafter : stops after.toList) : Legible fun a => before ++ write a ++ after where
  opens a := by
    simp only [String.toList_append, List.append_assoc]
    exact not_stops_append hbefore _
  reads := by
    intro a b x y hx hy heq
    simp only [String.toList_append, List.append_assoc] at heq
    obtain ⟨hab, hrest⟩ := h.reads (stops_append hafter hx) (stops_append hafter hy) (List.append_cancel_left heq)
    exact ⟨hab, List.append_cancel_left hrest⟩

theorem both {w₁ : α → String} {w₂ : β → String} (h₁ : Legible w₁) (h₂ : Legible w₂)
    (between : String) (hbetween : ∀ x, stops (between.toList ++ x)) :
    Legible fun p : α × β => w₁ p.1 ++ between ++ w₂ p.2 where
  opens p := by
    simp only [String.toList_append, List.append_assoc]
    exact not_stops_append (h₁.opens p.1) _
  reads := by
    intro p q x y hx hy heq
    simp only [String.toList_append, List.append_assoc] at heq
    obtain ⟨hfst, hrest⟩ := h₁.reads (hbetween _) (hbetween _) heq
    obtain ⟨hsnd, hxy⟩ := h₂.reads hx hy (List.append_cancel_left hrest)
    exact ⟨Prod.ext hfst hsnd, hxy⟩

theorem enclose_both {w₁ : α → String} {w₂ : β → String} (h₁ : Legible w₁) (h₂ : Legible w₂)
    (before between after : String) (hbefore : ¬ stops before.toList)
    (hbetween : ∀ x, stops (between.toList ++ x)) (hafter : stops after.toList) :
    Legible fun p : α × β => before ++ w₁ p.1 ++ between ++ w₂ p.2 ++ after := by
  have h := (h₁.both h₂ between hbetween).enclose before after hbefore hafter
  simpa only [String.append_assoc] using h

def laterItems (write : α → String) (as : List α) : List Char :=
  as.flatMap fun a => ',' :: ' ' :: (write a).toList

theorem toList_intercalate_cons (write : α → String) (a : α) (as : List α) :
    (", ".intercalate ((a :: as).map write)).toList = (write a).toList ++ laterItems write as := by
  induction as generalizing a with
  | nil => simp [laterItems]
  | cons b as ih =>
    rw [List.map_cons, List.map_cons, String.intercalate_cons_cons, ← List.map_cons,
      String.toList_append, String.toList_append, ih]
    simp [laterItems]

theorem stops_laterItems (write : α → String) (as : List α) {c : Char} (hc : isStop c) (x : List Char) :
    stops (laterItems write as ++ c :: x) := by
  cases as with
  | nil => exact hc
  | cons a as => exact (rfl : isStop ',' = true)

theorem reads_laterItems (h : Legible write) {as bs : List α} {c : Char} (hc : isStop c)
    (hcomma : c ≠ ',') {x y : List Char}
    (heq : laterItems write as ++ c :: x = laterItems write bs ++ c :: y) : as = bs ∧ x = y := by
  induction as generalizing bs with
  | nil =>
    cases bs with
    | nil => exact ⟨rfl, (List.cons.inj heq).2⟩
    | cons b bs => exact absurd (List.cons.inj heq).1 hcomma
  | cons a as ih =>
    cases bs with
    | nil => exact absurd (List.cons.inj heq).1.symm hcomma
    | cons b bs =>
      simp only [laterItems, List.flatMap_cons, List.cons_append, List.append_assoc, List.cons.injEq,
        true_and] at heq
      obtain ⟨rfl, hrest⟩ := h.reads (stops_laterItems write as hc _) (stops_laterItems write bs hc _) heq
      obtain ⟨rfl, hxy⟩ := ih hrest
      exact ⟨rfl, hxy⟩

/-- The items of a list up to the mark that closes it. No item starts with that mark, so an empty list is
not taken for another one. -/
theorem reads_items (h : Legible write) {as bs : List α} {c : Char} (hc : isStop c)
    (hcomma : c ≠ ',') {x y : List Char}
    (heq : (", ".intercalate (as.map write)).toList ++ c :: x =
      (", ".intercalate (bs.map write)).toList ++ c :: y) : as = bs ∧ x = y := by
  have hopens (a : α) (as : List α) (z w : List Char) :
      (", ".intercalate ((a :: as).map write)).toList ++ z ≠ c :: w := by
    rw [toList_intercalate_cons, List.append_assoc]
    intro hstart
    apply not_stops_append (h.opens a) (laterItems write as ++ z)
    rw [hstart]
    exact hc
  cases as with
  | nil =>
    cases bs with
    | nil => exact ⟨rfl, (List.cons.inj heq).2⟩
    | cons b bs => exact absurd heq.symm (hopens b bs _ _)
  | cons a as =>
    cases bs with
    | nil => exact absurd heq (hopens a as _ _)
    | cons b bs =>
      rw [toList_intercalate_cons, toList_intercalate_cons, List.append_assoc, List.append_assoc] at heq
      obtain ⟨rfl, hrest⟩ := h.reads (stops_laterItems write as hc _) (stops_laterItems write bs hc _) heq
      obtain ⟨rfl, hxy⟩ := h.reads_laterItems hc hcomma hrest
      exact ⟨rfl, hxy⟩

theorem items (h : Legible write) (before after : String) (hbefore : ¬ stops before.toList) {c : Char}
    (hafter : after.toList = [c]) (hc : isStop c) (hcomma : c ≠ ',') :
    Legible fun as : List α => before ++ ", ".intercalate (as.map write) ++ after where
  opens as := by
    simp only [String.toList_append, List.append_assoc]
    exact not_stops_append hbefore _
  reads := by
    intro as bs x y _ _ heq
    simp only [String.toList_append, List.append_assoc, hafter, List.cons_append, List.nil_append] at heq
    exact h.reads_items hc hcomma (List.append_cancel_left heq)

end Legible

end Facet.Text
