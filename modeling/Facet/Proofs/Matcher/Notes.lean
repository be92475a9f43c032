import Facet.Session.Step

namespace Facet

namespace Traced

variable {α β : Type} {P : Note → Prop}

def Leaves (P : Note → Prop) (x : Traced α) : Prop := ∀ n ∈ x.notes, P n

namespace Leaves

theorem pure (a : α) : (Pure.pure a : Traced α).Leaves P := by
  simp [Leaves]

theorem panic (p : Panic) : (Traced.panic p : Traced α).Leaves P := by
  simp [Leaves, Traced.panic]

theorem note {n : Note} (h : P n) : (Traced.note n).Leaves P := fun _ hm =>
  List.mem_singleton.1 hm ▸ h

theorem attempt {x : Traced α} (h : x.Leaves P) : x.attempt.Leaves P := h

theorem bind {x : Traced α} {f : α → Traced β} (hx : x.Leaves P) (hf : ∀ a, (f a).Leaves P) :
    (x >>= f).Leaves P := by
  cases h : x.outcome with
  | error p =>
    rw [bind_error h]
    exact hx
  | ok a =>
    rw [bind_ok h]
    intro n hn
    rcases List.mem_append.1 hn with hn | hn
    · exact hx n hn
    · exact hf a n hn

end Leaves

end Traced

namespace Matcher

variable {L X : Type} [Criterion L X] {P : Note → Prop}

open Traced

mutual

theorem leaves_test (h : ∀ (l : L) (x : X), (Criterion.test l x).Leaves P) :
    ∀ (m : Matcher L) (x : X), (m.test x).Leaves P
  | .criterion l, x => h l x
  | .anything _, _ => .pure true
  | .stub s, _ => by
    simp only [test, Stub.test]
    split
    · exact .panic _
    · exact .pure _
  | .not m, x => (leaves_test h m x).bind fun _ => .pure _
  | .allOf ms, x => leaves_testAll h ms x
  | .forward _ m, x => leaves_test h m x

theorem leaves_testAll (h : ∀ (l : L) (x : X), (Criterion.test l x).Leaves P) :
    ∀ (ms : List (Matcher L)) (x : X), (testAll ms x).Leaves P
  | [], _ => .pure true
  | m :: ms, x => (leaves_test h m x).bind fun passed => by
    cases passed with
    | false => exact .pure false
    | true => exact leaves_testAll h ms x

end

mutual

theorem leaves_explain (ht : ∀ (l : L) (x : X), (Criterion.test l x).Leaves P)
    (he : ∀ (l : L) (x : X) (d : Description), (Criterion.explain l x d).Leaves P) :
    ∀ (m : Matcher L) (x : X) (d : Description), (m.explain x d).Leaves P
  | .criterion l, x, d => he l x d
  | .anything _, _, _ => .pure _
  | .stub _, _, _ => .pure _
  | .not _, _, _ => .pure _
  | .allOf ms, x, d => leaves_explainAll ht he ms x d
  | .forward _ m, x, d => leaves_explain ht he m x d

theorem leaves_explainAll (ht : ∀ (l : L) (x : X), (Criterion.test l x).Leaves P)
    (he : ∀ (l : L) (x : X) (d : Description), (Criterion.explain l x d).Leaves P) :
    ∀ (ms : List (Matcher L)) (x : X) (d : Description), (explainAll ms x d).Leaves P
  | [], _, _ => .pure _
  | m :: ms, x, d => (leaves_test ht m x).bind fun passed => by
    cases passed with
    | false => exact leaves_explain ht he m x _
    | true => exact leaves_explainAll ht he ms x d

end

variable (ht : ∀ (l : L) (x : X), (Criterion.test l x).Leaves P)
  (he : ∀ (l : L) (x : X) (d : Description), (Criterion.explain l x d).Leaves P)

include ht he

theorem leaves_evaluate (m : Matcher L) (x : X) : (m.evaluate x).Leaves P := by
  refine (leaves_test ht m x).bind fun passed => ?_
  cases passed with
  | true => exact .pure _
  | false => exact (leaves_explain ht he m x _).bind fun _ => .pure _

theorem leaves_assertThat (m : Matcher L) (x : X) : (m.assertThat x).Leaves P := by
  refine (leaves_evaluate ht he m x).bind fun v => ?_
  split
  · exact .pure _
  · exact .panic _

theorem leaves_examine (m : Matcher L) (x : X) : (m.examine x).Leaves P := by
  refine (leaves_evaluate ht he m x).bind fun _ => ?_
  refine (leaves_explain ht he m x _).bind fun _ => ?_
  exact (leaves_assertThat ht he m x).attempt.bind fun _ => .pure _

end Matcher

end Facet
