import Facet.Proofs.Matcher.Replaying

namespace Facet

namespace Matcher

variable {L X : Type} [Criterion L X]

structure NeverPanics (m : Matcher L) : Prop where
  decides : ∀ x : X, ∃ passed, (m.test x).outcome = .ok passed
  explains : ∀ (x : X) (d : Description), (m.test x).outcome = .ok false →
    ∃ d', (m.explain x d).outcome = .ok d'

variable {m : Matcher L} {x : X}

theorem outcome_evaluate_of_accepted (h : (m.test x).outcome = .ok true) :
    (m.evaluate x).outcome = .ok ⟨true, (m.describe .empty).text, none⟩ := by
  rw [evaluate, Traced.outcome_bind_of_ok h]
  rfl

theorem outcome_evaluate_of_rejected {d : Description} (h : (m.test x).outcome = .ok false)
    (hd : (m.explain x .empty).outcome = .ok d) :
    (m.evaluate x).outcome = .ok ⟨false, (m.describe .empty).text, some d.text⟩ := by
  rw [evaluate, Traced.outcome_bind_of_ok h, if_neg Bool.false_ne_true, Traced.outcome_bind_of_ok hd]
  rfl

theorem NeverPanics.evaluates (h : m.NeverPanics) (x : X) :
    ∃ verdict, (m.evaluate x).outcome = .ok verdict := by
  obtain ⟨passed, htest⟩ := h.decides x
  cases passed with
  | true => exact ⟨_, outcome_evaluate_of_accepted htest⟩
  | false =>
    obtain ⟨d, hd⟩ := h.explains x .empty htest
    exact ⟨_, outcome_evaluate_of_rejected htest hd⟩

end Matcher

namespace Invocation

theorem exists_outcome_replay {c : Capability} (i : Invocation) (u : Ty) (target : Target c) :
    ∃ o, (i.replay u target).outcome = .ok o := by
  simp only [replay]
  split <;> exact ⟨_, rfl⟩

end Invocation

namespace Replaying

variable {c : Capability} {r : Replaying c} {target : Target c} {d : Description} {e : ReplayError}

def withInner (r : Replaying c) (inner : ValueMatcher r.returns) : Replaying c := { r with inner }

def failureText (diagnostics : Diagnostics) (e : ReplayError) : String :=
  match diagnostics with
  | .detailed => "threw <" ++ e.message ++ ">"
  | .silent => "threw"

theorem threw_eq_failureText (diagnostics : Diagnostics) (e : ReplayError) :
    threw diagnostics e = failureText diagnostics e := by
  cases diagnostics with
  | silent => rfl
  | detailed => simp [threw, failureText, Ty.bracket, ← String.toList_inj]

theorem exists_outcome_explain_of_neverPanics (h : r.inner.NeverPanics) (target : Target c)
    (d : Description) : ∃ d', (r.explain target d).outcome = .ok d' := by
  obtain ⟨o, ho⟩ := r.invocation.exists_outcome_replay r.returns target
  cases o with
  | error e => exact ⟨_, outcome_explain_of_error ho⟩
  | ok a =>
    obtain ⟨passed, htest⟩ := h.decides a
    cases passed with
    | true => exact ⟨d, outcome_explain_of_accepted ho htest⟩
    | false =>
      rw [outcome_explain_of_rejected ho htest]
      cases r.flavor with
      | hasValue => exact h.explains a d htest
      | such => exact ⟨_, rfl⟩

theorem neverPanics_criterion (h : r.inner.NeverPanics) : (Matcher.criterion r).NeverPanics where
  decides target := by
    obtain ⟨o, ho⟩ := r.invocation.exists_outcome_replay r.returns target
    cases o with
    | error e => exact ⟨false, outcome_test_of_error ho⟩
    | ok a =>
      obtain ⟨passed, htest⟩ := h.decides a
      exact ⟨passed, (outcome_test_of_ok ho).trans htest⟩
  explains target d _ := exists_outcome_explain_of_neverPanics h target d

theorem outcome_evaluate_of_error
    (h : (r.invocation.replay r.returns target).outcome = .ok (.error e)) :
    ((Matcher.criterion r).evaluate target).outcome =
      .ok ⟨false, (r.describe .empty).text, some (failureText r.diagnostics e)⟩ := by
  have htest : ((Matcher.criterion r).test target).outcome = .ok false := outcome_test_of_error h
  have hexplain : ((Matcher.criterion r).explain target .empty).outcome =
      .ok (Description.empty.appendText (threw r.diagnostics e)) := outcome_explain_of_error h
  rw [Matcher.outcome_evaluate_of_rejected htest hexplain, threw_eq_failureText]
  simp [Matcher.describe, Criterion.describe]

theorem value_eq_of_error (h : (r.invocation.replay r.returns target).outcome = .ok (.error e)) :
    r.value target =
      ⟨.ok (.error e),
        (r.invocation.replay r.returns target).notes ++ [.replayFailed r.invocation e]⟩ := by
  rw [value, Traced.bind_ok h]
  rfl

theorem test_eq_of_error (h : (r.invocation.replay r.returns target).outcome = .ok (.error e)) :
    r.test target =
      ⟨.ok false, (r.invocation.replay r.returns target).notes ++ [.replayFailed r.invocation e]⟩ := by
  rw [test, Traced.bind_ok (outcome_value h), value_eq_of_error h]
  simp

theorem explain_eq_of_error (h : (r.invocation.replay r.returns target).outcome = .ok (.error e)) :
    r.explain target d =
      ⟨.ok (d.appendText (failureText r.diagnostics e)),
        (r.invocation.replay r.returns target).notes ++ [.replayFailed r.invocation e]⟩ := by
  rw [explain, Traced.bind_ok (outcome_value h), value_eq_of_error h]
  simp [threw_eq_failureText]

/-- A failed replay is a mismatch and nothing else: the inner matcher, whatever it is, takes no part in it,
and silent diagnostics leave nothing by which two failures could be told apart. -/
theorem replay_error_never_escapes (r : Replaying c) :
    (r.inner.NeverPanics → ∀ target : Target c,
      (∃ passed, (r.test target).outcome = .ok passed) ∧
      (∀ d, ∃ d', (r.explain target d).outcome = .ok d') ∧
      ∃ verdict, ((Matcher.criterion r).evaluate target).outcome = .ok verdict) ∧
    (∀ (target : Target c) (e : ReplayError),
      (r.invocation.replay r.returns target).outcome = .ok (.error e) →
      (r.test target).outcome = .ok false ∧
      (∀ d, (r.explain target d).outcome = .ok (d.appendText (failureText r.diagnostics e))) ∧
      ∀ inner, (r.withInner inner).test target = r.test target ∧
        ∀ d, (r.withInner inner).explain target d = r.explain target d) ∧
    (r.diagnostics = .silent → ∀ (target target' : Target c) (e e' : ReplayError),
      (r.invocation.replay r.returns target).outcome = .ok (.error e) →
      (r.invocation.replay r.returns target').outcome = .ok (.error e') →
      ((Matcher.criterion r).evaluate target).outcome =
          .ok ⟨false, (r.describe .empty).text, some "threw"⟩ ∧
        ((Matcher.criterion r).evaluate target').outcome =
          .ok ⟨false, (r.describe .empty).text, some "threw"⟩) := by
  refine ⟨fun hinner target => ?_, fun target e h => ?_, fun hsilent target target' e e' h h' => ?_⟩
  · have hpanics := neverPanics_criterion hinner
    exact ⟨hpanics.decides target, exists_outcome_explain_of_neverPanics hinner target,
      hpanics.evaluates target⟩
  · refine ⟨outcome_test_of_error h, fun d => ?_, fun inner => ⟨?_, fun d => ?_⟩⟩
    · rw [explain_eq_of_error h]
    · rw [test_eq_of_error h, test_eq_of_error (r := r.withInner inner) h]
      rfl
    · rw [explain_eq_of_error h, explain_eq_of_error (r := r.withInner inner) h]
      rfl
  · rw [outcome_evaluate_of_error h, outcome_evaluate_of_error h', hsilent]
    exact ⟨rfl, rfl⟩

theorem replay_error_never_escapes_panicking :
    let r : Replaying .person :=
      ⟨.name, .hasValue, ⟨Method.getName.member, []⟩, .detailed, .stub ⟨true, "y", "x", none⟩⟩
    let target : Target .person := .real (.panicking (.message "no name"))
    r.inner.NeverPanics ∧ (∃ verdict, ((Matcher.criterion r).evaluate target).outcome = .ok verdict) ∧
      (r.test target).outcome = .ok false ∧ (r.explain target .empty).outcome = .ok ⟨"threw <no name>"⟩ := by
  intro r target
  obtain ⟨hreturns, hfails, -⟩ := replay_error_never_escapes r
  have hinner : r.inner.NeverPanics := ⟨fun _ => ⟨true, rfl⟩, fun _ _ h => by cases h⟩
  obtain ⟨htest, hexplain, -⟩ := hfails target (.panicked (.message "no name")) rfl
  exact ⟨hinner, (hreturns hinner target).2.2, htest, hexplain .empty⟩

end Replaying

end Facet
