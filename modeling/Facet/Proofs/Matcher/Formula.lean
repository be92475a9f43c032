import Facet.Proofs.Matcher.Calm

namespace Facet

open Traced

/-- What a criterion says of a subject, and when it can be relied on to say it. -/
class Criterion.Meaning (L : Type) {X : outParam Type} [Criterion L X] where
  holds : L → X → Bool
  Quiet : L → X → Prop
  holds_eq {l : L} {x : X} {passed : Bool} (h : (test l x).outcome = .ok passed) : holds l x = passed
  returns_test {l : L} {x : X} (h : Quiet l x) : (test l x).Returns

namespace Matcher

variable {L X : Type} [Criterion L X] {m : Matcher L} {ms : List (Matcher L)} {x : X}

section Value

variable [Criterion.Meaning L]

mutual

def holds : Matcher L → X → Bool
  | .criterion l, x => Criterion.Meaning.holds l x
  | .anything _, _ => true
  | .stub s, _ => s.verdict
  | .not m, x => !m.holds x
  | .allOf ms, x => holdsAll ms x
  | .forward _ m, x => m.holds x

def holdsAll : List (Matcher L) → X → Bool
  | [], _ => true
  | m :: ms, x => m.holds x && holdsAll ms x

end

def Quiet (m : Matcher L) (x : X) : Prop := m.Calm (Criterion.Meaning.Quiet · x)

theorem holdsAll_eq_all : holdsAll ms x = ms.all (·.holds x) := by
  induction ms with
  | nil => rfl
  | cons m ms ih => rw [holdsAll, ih, List.all_cons]

mutual

theorem holds_eq_of_outcome :
    ∀ (m : Matcher L) {passed : Bool}, (m.test x).outcome = .ok passed → m.holds x = passed
  | .criterion _, _, h => Criterion.Meaning.holds_eq h
  | .anything _, _, h => Except.ok.inj h
  | .stub s, _, h => by
    simp only [test, Stub.test] at h
    split at h
    · cases h
    · exact Except.ok.inj h
  | .not m, _, h => by
    obtain ⟨passed, hm, hnot⟩ := exists_outcome_of_bind h
    rw [holds, holds_eq_of_outcome m hm]
    exact Except.ok.inj hnot
  | .allOf ms, _, h => holdsAll_eq_of_outcome ms h
  | .forward _ m, _, h => holds_eq_of_outcome m h

theorem holdsAll_eq_of_outcome :
    ∀ (ms : List (Matcher L)) {passed : Bool}, (testAll ms x).outcome = .ok passed → holdsAll ms x = passed
  | [], _, h => Except.ok.inj h
  | m :: ms, _, h => by
    obtain ⟨hm, hms⟩ | ⟨hm, rfl⟩ := testAll_cases h
    · rw [holdsAll, holds_eq_of_outcome m hm, holdsAll_eq_of_outcome ms hms, Bool.true_and]
    · rw [holdsAll, holds_eq_of_outcome m hm, Bool.false_and]

end

theorem Quiet.returns_test (h : m.Quiet x) : (m.test x).Returns :=
  Calm.returns_test (fun _ hl => Criterion.Meaning.returns_test hl) m h

end Value

section Conjunction

variable {before : List (Matcher L)}

theorem outcome_testAll_append (h : ∀ n ∈ before, (n.test x).outcome = .ok true) (ms : List (Matcher L)) :
    (testAll (before ++ ms) x).outcome = (testAll ms x).outcome := by
  induction before with
  | nil => rfl
  | cons n before ih =>
    obtain ⟨hn, hbefore⟩ := List.forall_mem_cons.1 h
    exact (outcome_testAll_of_accepted hn).trans (ih hbefore)

theorem outcome_explainAll_append (h : ∀ n ∈ before, (n.test x).outcome = .ok true) (ms : List (Matcher L))
    (d : Description) : (explainAll (before ++ ms) x d).outcome = (explainAll ms x d).outcome := by
  induction before with
  | nil => rfl
  | cons n before ih =>
    obtain ⟨hn, hbefore⟩ := List.forall_mem_cons.1 h
    exact (outcome_explainAll_of_accepted hn).trans (ih hbefore)

/-- The conjunction is decided by `m`, whatever comes after it, and its mismatch is that of `m` behind the
description of `m`. -/
structure DecidedBy (before : List (Matcher L)) (m : Matcher L) (x : X) (mismatch : String) : Prop where
  mismatch_eq : (m.explain x .empty).outcome = .ok ⟨mismatch⟩
  rejects (after : List (Matcher L)) :
    ((Matcher.allOf (before ++ m :: after)).test x).outcome = .ok false
  explains (after : List (Matcher L)) (d : Description) :
    ((Matcher.allOf (before ++ m :: after)).explain x d).outcome =
      .ok (d.appendText (m.text ++ " " ++ mismatch))

theorem exists_decidedBy [Criterion.Appending L] (h : ∀ n ∈ before, (n.test x).outcome = .ok true)
    (hm : (m.test x).outcome = .ok false) : ∃ mismatch, DecidedBy before m x mismatch := by
  obtain ⟨w, hw⟩ := exists_mismatch ⟨false, hm⟩
  refine ⟨w, (hw .empty).trans (by simp), fun after => ?_, fun after d => ?_⟩
  · exact (outcome_testAll_append h _).trans (outcome_testAll_of_rejected hm)
  · calc
      ((Matcher.allOf (before ++ m :: after)).explain x d).outcome
        = (explainAll (m :: after) x d).outcome := outcome_explainAll_append h _ d
      _ = (m.explain x ((m.describe d).appendText " ")).outcome := outcome_explainAll_of_rejected hm
      _ = .ok (((d.appendText m.text).appendText " ").appendText w) := by rw [hw, describe_eq]
      _ = .ok (d.appendText (m.text ++ " " ++ w)) := by simp [String.append_assoc]

end Conjunction

end Matcher

def ValueCriterion.holds {t : Ty} : ValueCriterion t → t.Val → Bool
  | .equalTo expected, actual => t.eqv actual expected
  | .pattern h p, actual => p.isMatch (h.text actual)

instance {t : Ty} : Criterion.Meaning (ValueCriterion t) where
  holds := ValueCriterion.holds
  Quiet _ _ := True
  holds_eq {l _ _} h := by
    cases l <;> exact Except.ok.inj h
  returns_test {l _} _ := by
    cases l <;> exact .pure _

namespace Replaying

variable {c : Capability} {r : Replaying c} {target : Target c}

def holds (r : Replaying c) (target : Target c) : Bool :=
  match (r.invocation.replay r.returns target).outcome with
  | .ok (.ok a) => r.inner.holds a
  | _ => false

def Quiet (r : Replaying c) (target : Target c) : Prop :=
  ∀ a, (r.invocation.replay r.returns target).outcome = .ok (.ok a) → r.inner.Quiet a

theorem holds_eq_of_outcome {passed : Bool} (h : (r.test target).outcome = .ok passed) :
    r.holds target = passed := by
  obtain ⟨o, ho⟩ := r.invocation.exists_outcome_replay r.returns target
  rw [holds, ho]
  cases o with
  | error e => exact Except.ok.inj ((outcome_test_of_error ho).symm.trans h)
  | ok a => exact r.inner.holds_eq_of_outcome ((outcome_test_of_ok ho).symm.trans h)

theorem Quiet.returns_test (h : r.Quiet target) : (r.test target).Returns := by
  obtain ⟨o, ho⟩ := r.invocation.exists_outcome_replay r.returns target
  cases o with
  | error e => exact ⟨false, outcome_test_of_error ho⟩
  | ok a =>
    obtain ⟨passed, hpassed⟩ := Matcher.Quiet.returns_test (h a ho)
    exact ⟨passed, (outcome_test_of_ok ho).trans hpassed⟩

end Replaying

instance {c : Capability} : Criterion.Meaning (Replaying c) where
  holds := Replaying.holds
  Quiet := Replaying.Quiet
  holds_eq h := Replaying.holds_eq_of_outcome h
  returns_test h := h.returns_test

end Facet
