import Facet.Proofs.Matcher.Notes

namespace Facet

namespace Traced

variable {α β : Type}

theorem notes_bind (x : Traced α) (f : α → Traced β) :
    (x >>= f).notes = x.notes ++ match x.outcome with
      | .error _ => []
      | .ok a => (f a).notes := by
  cases h : x.outcome with
  | error p => simp [bind_error h]
  | ok a => rw [bind_ok h]

theorem notes_eq_nil_of_leaves {x : Traced α} (h : x.Leaves fun _ => False) : x.notes = [] :=
  List.eq_nil_iff_forall_not_mem.2 h

end Traced

namespace Matcher

variable {L X : Type} [Criterion L X]

mutual

def tested : Matcher L → X → List L
  | .criterion l, _ => [l]
  | .anything _, _ | .stub _, _ => []
  | .not m, x => m.tested x
  | .allOf ms, x => testedAll ms x
  | .forward _ m, x => m.tested x

/-- A conjunction stops at the first member that does not hold. -/
def testedAll : List (Matcher L) → X → List L
  | [], _ => []
  | m :: ms, x => m.tested x ++ match (m.test x).outcome with
    | .ok true => testedAll ms x
    | _ => []

end

mutual

def explained : Matcher L → X → List L
  | .criterion l, _ => [l]
  | .anything _, _ | .stub _, _ | .not _, _ => []
  | .allOf ms, x => explainedAll ms x
  | .forward _ m, x => m.explained x

def explainedAll : List (Matcher L) → X → List L
  | [], _ => []
  | m :: ms, x => m.tested x ++ match (m.test x).outcome with
    | .ok true => explainedAll ms x
    | .ok false => m.explained x
    | .error _ => []

end

def evaluated (m : Matcher L) (x : X) : List L :=
  m.tested x ++ match (m.test x).outcome with
    | .ok false => m.explained x
    | _ => []

/-- The criteria that are consulted to evaluate, to explain and to assert, unless a panic comes before. -/
def examined (m : Matcher L) (x : X) : List L :=
  m.evaluated x ++ match (m.evaluate x).outcome with
    | .error _ => []
    | .ok _ => m.explained x ++ match (m.explain x .empty).outcome with
      | .error _ => []
      | .ok _ => m.evaluated x

variable {trail : L → X → List Note}

mutual

theorem notes_test (ht : ∀ l x, (Criterion.test l x).notes = trail l x) :
    ∀ (m : Matcher L) (x : X), (m.test x).notes = (m.tested x).flatMap (trail · x)
  | .criterion l, x => by simp [test, tested, ht]
  | .anything _, _ => rfl
  | .stub s, _ => by
    simp only [test, Stub.test]
    split <;> rfl
  | .not m, x => by
    rw [test, Traced.notes_bind, notes_test ht m x, tested]
    cases (m.test x).outcome <;> simp
  | .allOf ms, x => notes_testAll ht ms x
  | .forward _ m, x => notes_test ht m x

theorem notes_testAll (ht : ∀ l x, (Criterion.test l x).notes = trail l x) :
    ∀ (ms : List (Matcher L)) (x : X), (testAll ms x).notes = (testedAll ms x).flatMap (trail · x)
  | [], _ => rfl
  | m :: ms, x => by
    rw [testAll, Traced.notes_bind, notes_test ht m x, testedAll, List.flatMap_append]
    cases (m.test x).outcome with
    | error p => rfl
    | ok passed =>
      cases passed with
      | false => rfl
      | true => exact congrArg _ (notes_testAll ht ms x)

end

mutual

theorem notes_explain (ht : ∀ l x, (Criterion.test l x).notes = trail l x)
    (he : ∀ l x d, (Criterion.explain l x d).notes = trail l x) :
    ∀ (m : Matcher L) (x : X) (d : Description),
      (m.explain x d).notes = (m.explained x).flatMap (trail · x)
  | .criterion l, x, d => by simp [explain, explained, he]
  | .anything _, _, _ | .stub _, _, _ | .not _, _, _ => rfl
  | .allOf ms, x, d => notes_explainAll ht he ms x d
  | .forward _ m, x, d => notes_explain ht he m x d

theorem notes_explainAll (ht : ∀ l x, (Criterion.test l x).notes = trail l x)
    (he : ∀ l x d, (Criterion.explain l x d).notes = trail l x) :
    ∀ (ms : List (Matcher L)) (x : X) (d : Description),
      (explainAll ms x d).notes = (explainedAll ms x).flatMap (trail · x)
  | [], _, _ => rfl
  | m :: ms, x, d => by
    rw [explainAll, Traced.notes_bind, notes_test ht m x, explainedAll, List.flatMap_append]
    cases (m.test x).outcome with
    | error p => rfl
    | ok passed =>
      cases passed with
      | false => exact congrArg _ (notes_explain ht he m x _)
      | true => exact congrArg _ (notes_explainAll ht he ms x d)

end

section

variable (ht : ∀ l x, (Criterion.test l x).notes = trail l x)
  (he : ∀ l x d, (Criterion.explain l x d).notes = trail l x)

include ht he

theorem notes_evaluate (m : Matcher L) (x : X) :
    (m.evaluate x).notes = (m.evaluated x).flatMap (trail · x) := by
  rw [evaluate, Traced.notes_bind, notes_test ht, evaluated, List.flatMap_append]
  cases (m.test x).outcome with
  | error p => rfl
  | ok passed =>
    cases passed with
    | true => rfl
    | false =>
      simp only [Bool.false_eq_true, if_false, Traced.notes_bind, notes_explain ht he]
      cases (m.explain x .empty).outcome <;> simp

theorem notes_assertThat (m : Matcher L) (x : X) :
    (m.assertThat x).notes = (m.evaluated x).flatMap (trail · x) := by
  rw [assertThat, Traced.notes_bind, notes_evaluate ht he]
  cases (m.evaluate x).outcome with
  | error p => simp
  | ok v => cases hv : v.passed <;> simp [hv, Traced.panic]

theorem notes_examine (m : Matcher L) (x : X) :
    (m.examine x).notes = (m.examined x).flatMap (trail · x) := by
  rw [examine, Traced.notes_bind, notes_evaluate ht he, examined, List.flatMap_append]
  cases (m.evaluate x).outcome with
  | error p => rfl
  | ok v =>
    simp only [Traced.notes_bind, notes_explain ht he, List.flatMap_append]
    cases (m.explain x .empty).outcome with
    | error p => rfl
    | ok d => simp [notes_assertThat ht he]

end

end Matcher

end Facet
