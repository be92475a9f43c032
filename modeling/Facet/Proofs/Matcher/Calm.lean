import Facet.Proofs.Matcher.Appending
import Facet.Session.Step

namespace Facet

namespace Matcher

variable {L X : Type} [Criterion L X] {P : L → Prop}

mutual

def Calm (P : L → Prop) : Matcher L → Prop
  | .criterion l => P l
  | .anything _ => True
  | .stub s => s.panic = none
  | .not m => m.Calm P
  | .allOf ms => CalmAll P ms
  | .forward _ m => m.Calm P

def CalmAll (P : L → Prop) : List (Matcher L) → Prop
  | [] => True
  | m :: ms => m.Calm P ∧ CalmAll P ms

end

open Traced

mutual

theorem Calm.returns_test {x : X} (ht : ∀ l, P l → (Criterion.test l x).Returns) :
    ∀ (m : Matcher L), m.Calm P → (m.test x).Returns
  | .criterion l, hm => ht l hm
  | .anything _, _ => .pure true
  | .stub s, hm => by
    have hpanic : s.panic = none := hm
    simp only [test, Stub.test, hpanic]
    exact .pure _
  | .not m, hm => (Calm.returns_test ht m hm).bind fun _ => .pure _
  | .allOf ms, hm => CalmAll.returns_testAll ht ms hm
  | .forward _ m, hm => Calm.returns_test ht m hm

theorem CalmAll.returns_testAll {x : X} (ht : ∀ l, P l → (Criterion.test l x).Returns) :
    ∀ (ms : List (Matcher L)), CalmAll P ms → (testAll ms x).Returns
  | [], _ => .pure true
  | m :: ms, ⟨hm, hms⟩ => (Calm.returns_test ht m hm).bind fun passed => by
    cases passed with
    | false => exact .pure false
    | true => exact CalmAll.returns_testAll ht ms hms

end

/-- An assertion that fails panics, but it is the last of the three readings. -/
theorem Calm.returns_examine [Criterion.Appending L] {x : X}
    (ht : ∀ l, P l → (Criterion.test l x).Returns) {m : Matcher L} (hm : m.Calm P) :
    (m.examine x).Returns := by
  have htest := returns_test ht m hm
  refine (returns_evaluate htest).bind fun _ => (m.returns_explain_of_returns_test htest _).bind fun _ => ?_
  exact ⟨_, rfl⟩

end Matcher

theorem ValueMatcher.neverPanics_of_calm {t : Ty} {m : ValueMatcher t} (hm : m.Calm fun _ => True) :
    m.NeverPanics := by
  have htest (a : t.Val) : (m.test a).Returns :=
    hm.returns_test (fun l _ => by cases l <;> exact .pure _) m
  exact ⟨htest, fun a d _ => m.returns_explain_of_returns_test (htest a) d⟩

def InstanceMatcher.Calm {c : Capability} (m : InstanceMatcher c) : Prop :=
  Matcher.Calm (fun r => r.inner.Calm fun _ => True) m

theorem InstanceMatcher.returns_examine {c : Capability} {m : InstanceMatcher c} (hm : m.Calm)
    (target : Target c) : (m.examine target).Returns := by
  refine Matcher.Calm.returns_examine (fun r hr => ?_) hm
  exact (Replaying.neverPanics_criterion (ValueMatcher.neverPanics_of_calm hr)).decides target

end Facet
