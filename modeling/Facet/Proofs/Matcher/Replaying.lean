import Facet.Matcher.Replaying

namespace Facet

namespace Traced

variable {α β : Type} {x : Traced α} {f : α → Traced β}

theorem outcome_bind_of_ok {a : α} (h : x.outcome = .ok a) : (x >>= f).outcome = (f a).outcome := by
  rw [bind_ok h]

theorem exists_outcome_of_bind {b : β} (h : (x >>= f).outcome = .ok b) :
    ∃ a, x.outcome = .ok a ∧ (f a).outcome = .ok b := by
  cases hx : x.outcome with
  | error p =>
    rw [bind_error hx] at h
    cases h
  | ok a =>
    rw [bind_ok hx] at h
    exact ⟨a, rfl, h⟩

end Traced

namespace Replaying

variable {c : Capability} {r : Replaying c} {target : Target c} {d : Description}

theorem outcome_value {o : Except ReplayError r.returns.Val}
    (h : (r.invocation.replay r.returns target).outcome = .ok o) :
    (r.value target).outcome = .ok o := by
  rw [value, Traced.outcome_bind_of_ok h]
  cases o <;> rfl

theorem outcome_test_of_ok {a : r.returns.Val}
    (h : (r.invocation.replay r.returns target).outcome = .ok (.ok a)) :
    (r.test target).outcome = (r.inner.test a).outcome := by
  rw [test, Traced.outcome_bind_of_ok (outcome_value h)]

theorem outcome_test_of_error {e : ReplayError}
    (h : (r.invocation.replay r.returns target).outcome = .ok (.error e)) :
    (r.test target).outcome = .ok false := by
  rw [test, Traced.outcome_bind_of_ok (outcome_value h)]
  rfl

theorem outcome_explain_of_error {e : ReplayError}
    (h : (r.invocation.replay r.returns target).outcome = .ok (.error e)) :
    (r.explain target d).outcome = .ok (d.appendText (threw r.diagnostics e)) := by
  rw [explain, Traced.outcome_bind_of_ok (outcome_value h)]
  rfl

theorem outcome_explain_of_accepted {a : r.returns.Val}
    (h : (r.invocation.replay r.returns target).outcome = .ok (.ok a))
    (ha : (r.inner.test a).outcome = .ok true) : (r.explain target d).outcome = .ok d := by
  rw [explain, Traced.outcome_bind_of_ok (outcome_value h)]
  simp only
  rw [Traced.outcome_bind_of_ok ha]
  rfl

theorem outcome_explain_of_rejected {a : r.returns.Val}
    (h : (r.invocation.replay r.returns target).outcome = .ok (.ok a))
    (ha : (r.inner.test a).outcome = .ok false) :
    (r.explain target d).outcome = match r.flavor with
      | .hasValue => (r.inner.explain a d).outcome
      | .such => .ok ((d.appendText "was ").appendValue r.returns a) := by
  rw [explain, Traced.outcome_bind_of_ok (outcome_value h)]
  simp only
  rw [Traced.outcome_bind_of_ok ha]
  cases r.flavor <;> rfl

variable {called : Except Panic r.returns.Val}
  (hreplay : (r.invocation.replay r.returns target).outcome = .ok (called.mapError .panicked))
  (hinner : ∀ v, called = .ok v → ∃ verdict, (r.inner.evaluate v).outcome = .ok verdict)

include hreplay hinner

end Replaying

end Facet
