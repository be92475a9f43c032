import Facet.Proofs.Matcher.Failure

namespace Facet

namespace Description

variable {d : Description}

@[simp] theorem appendText_appendText (s t : String) :
    (d.appendText s).appendText t = d.appendText (s ++ t) := by
  simp [appendText, String.append_assoc]

@[simp] theorem appendText_empty : d.appendText "" = d := by
  simp [appendText]

@[simp] theorem empty_appendText (s : String) : empty.appendText s = ⟨s⟩ := by
  simp [appendText, empty]

theorem appendValue_eq (t : Ty) (a : t.Val) : d.appendValue t a = d.appendText (t.render a) := rfl

end Description

namespace Traced

variable {α β : Type}

def Returns (x : Traced α) : Prop := ∃ a, x.outcome = .ok a

namespace Returns

theorem pure (a : α) : (Pure.pure a : Traced α).Returns := ⟨a, rfl⟩

theorem bind {x : Traced α} {f : α → Traced β} (hx : x.Returns) (hf : ∀ a, (f a).Returns) :
    (x >>= f).Returns := by
  obtain ⟨a, ha⟩ := hx
  obtain ⟨b, hb⟩ := hf a
  exact ⟨b, (outcome_bind_of_ok ha).trans hb⟩

end Returns

/-- The writer appends one text, or panics, whatever is there. -/
def Appends (write : Description → Traced Description) (written : Except Panic String) : Prop :=
  ∀ d, (write d).outcome = written.map d.appendText

end Traced

open Traced

class Criterion.Appending (L : Type) {X : outParam Type} [Criterion L X] : Prop where
  describe_eq (l : L) (d : Description) : describe l d = d.appendText (describe l .empty).text
  exists_appends (l : L) (x : X) : ∃ written, Appends (explain l x) written
  returns_explain {l : L} {x : X} (h : (test l x).Returns) (d : Description) : (explain l x d).Returns

namespace Matcher

variable {L X : Type} [Criterion L X] {m : Matcher L} {ms : List (Matcher L)} {x : X} {d : Description}

theorem outcome_testAll_of_accepted (h : (m.test x).outcome = .ok true) :
    (testAll (m :: ms) x).outcome = (testAll ms x).outcome := by
  rw [testAll, outcome_bind_of_ok h]
  rfl

theorem outcome_testAll_of_rejected (h : (m.test x).outcome = .ok false) :
    (testAll (m :: ms) x).outcome = .ok false := by
  rw [testAll, outcome_bind_of_ok h]
  rfl

theorem testAll_cases {passed : Bool} (h : (testAll (m :: ms) x).outcome = .ok passed) :
    ((m.test x).outcome = .ok true ∧ (testAll ms x).outcome = .ok passed) ∨
      ((m.test x).outcome = .ok false ∧ passed = false) := by
  have hbind := h
  rw [testAll] at hbind
  obtain ⟨first, hfirst, -⟩ := exists_outcome_of_bind hbind
  cases first with
  | true => exact .inl ⟨hfirst, (outcome_testAll_of_accepted hfirst).symm.trans h⟩
  | false =>
    refine .inr ⟨hfirst, ?_⟩
    cases (outcome_testAll_of_rejected hfirst).symm.trans h
    rfl

theorem outcome_explainAll_of_accepted (h : (m.test x).outcome = .ok true) :
    (explainAll (m :: ms) x d).outcome = (explainAll ms x d).outcome := by
  rw [explainAll, outcome_bind_of_ok h]
  rfl

theorem outcome_explainAll_of_rejected (h : (m.test x).outcome = .ok false) :
    (explainAll (m :: ms) x d).outcome = (m.explain x ((m.describe d).appendText " ")).outcome := by
  rw [explainAll, outcome_bind_of_ok h]
  rfl

theorem outcome_explainAll_of_panicked {p : Panic} (h : (m.test x).outcome = .error p) :
    (explainAll (m :: ms) x d).outcome = .error p := by
  rw [explainAll, bind_error h]

def text (m : Matcher L) : String := (m.describe .empty).text

mutual

theorem describe_eq [Criterion.Appending L] :
    ∀ (m : Matcher L) (d : Description), m.describe d = d.appendText m.text
  | .criterion l, d => Criterion.Appending.describe_eq l d
  | .anything _, _ | .stub _, _ => by simp [text, describe]
  | .not m, d => by
    simp only [text, describe, describe_eq m (Description.appendText _ _)]
    simp
  | .allOf ms, d => by
    simp only [text, describe, describeAll_eq ms]
    simp [String.append_assoc]
  | .forward _ m, d => describe_eq m d

theorem describeAll_eq [Criterion.Appending L] :
    ∀ (ms : List (Matcher L)) (d : Description),
      describeAll ms d = d.appendText (" and ".intercalate (ms.map text))
  | [], _ => by simp [describeAll]
  | m :: ms, d => by rw [describeAll, describe_eq m d, describeRest_eq ms, List.map_cons]

theorem describeRest_eq [Criterion.Appending L] :
    ∀ (ms : List (Matcher L)) (d : Description) (s : String),
      describeRest ms (d.appendText s) = d.appendText (" and ".intercalate (s :: ms.map text))
  | [], _, _ => by simp [describeRest]
  | m :: ms, d, s => by
    rw [describeRest, describe_eq m, Description.appendText_appendText, Description.appendText_appendText,
      describeRest_eq ms, List.map_cons, String.intercalate_cons_append, String.intercalate_cons_append,
      String.intercalate_cons_cons, String.append_assoc]

end

mutual

theorem exists_appends [Criterion.Appending L] :
    ∀ (m : Matcher L) (x : X), ∃ written, Appends (m.explain x) written
  | .criterion l, x => Criterion.Appending.exists_appends l x
  | .anything _, _ => ⟨.ok "", fun d => by simp [explain, Except.map]⟩
  | .stub s, _ => ⟨.ok s.mismatch, fun _ => rfl⟩
  | .not m, _ => ⟨.ok ("matched " ++ m.text), fun d => by simp [explain, describe_eq m, Except.map]⟩
  | .allOf ms, x => exists_appends_explainAll ms x
  | .forward _ m, x => exists_appends m x

theorem exists_appends_explainAll [Criterion.Appending L] :
    ∀ (ms : List (Matcher L)) (x : X), ∃ written, Appends (explainAll ms x) written
  | [], _ => ⟨.ok "", fun d => by simp [explainAll, Except.map]⟩
  | m :: ms, x => by
    cases h : (m.test x).outcome with
    | error p => exact ⟨.error p, fun d => outcome_explainAll_of_panicked h⟩
    | ok passed =>
      cases passed with
      | true =>
        obtain ⟨written, hwritten⟩ := exists_appends_explainAll ms x
        exact ⟨written, fun d => (outcome_explainAll_of_accepted h).trans (hwritten d)⟩
      | false =>
        obtain ⟨written, hwritten⟩ := exists_appends m x
        refine ⟨written.map (m.text ++ " " ++ ·), fun d => ?_⟩
        rw [outcome_explainAll_of_rejected h, describe_eq m, hwritten]
        cases written <;> simp [Except.map, String.append_assoc]

end

mutual

theorem returns_explain_of_returns_test [Criterion.Appending L] :
    ∀ (m : Matcher L) {x : X}, (m.test x).Returns → ∀ d, (m.explain x d).Returns
  | .criterion _, _, h, d => Criterion.Appending.returns_explain h d
  | .anything _, _, _, _ | .stub _, _, _, _ | .not _, _, _, _ => .pure _
  | .allOf ms, _, h, d => returns_explainAll_of_returns_testAll ms h d
  | .forward _ m, _, h, d => returns_explain_of_returns_test m h d

theorem returns_explainAll_of_returns_testAll [Criterion.Appending L] :
    ∀ (ms : List (Matcher L)) {x : X}, (testAll ms x).Returns → ∀ d, (explainAll ms x d).Returns
  | [], _, _, _ => .pure _
  | m :: ms, x, ⟨passed, h⟩, d => by
    obtain ⟨hm, hms⟩ | ⟨hm, -⟩ := testAll_cases h
    · obtain ⟨d', hd'⟩ := returns_explainAll_of_returns_testAll ms ⟨passed, hms⟩ d
      exact ⟨d', (outcome_explainAll_of_accepted hm).trans hd'⟩
    · obtain ⟨d', hd'⟩ := returns_explain_of_returns_test m ⟨false, hm⟩ ((m.describe d).appendText " ")
      exact ⟨d', (outcome_explainAll_of_rejected hm).trans hd'⟩

end

theorem exists_mismatch [Criterion.Appending L] (h : (m.test x).Returns) :
    ∃ w, ∀ d, (m.explain x d).outcome = .ok (d.appendText w) := by
  obtain ⟨written, hwritten⟩ := exists_appends m x
  obtain ⟨d', hd'⟩ := returns_explain_of_returns_test m h .empty
  cases written with
  | error p => cases (hwritten .empty).symm.trans hd'
  | ok w => exact ⟨w, hwritten⟩

theorem outcome_test_of_evaluate {v : Verdict} (h : (m.evaluate x).outcome = .ok v) :
    (m.test x).outcome = .ok v.passed := by
  obtain ⟨passed, htest, hrest⟩ := exists_outcome_of_bind h
  cases passed with
  | true =>
    cases hrest
    exact htest
  | false =>
    obtain ⟨d, -, hverdict⟩ := exists_outcome_of_bind hrest
    cases hverdict
    exact htest

theorem outcome_evaluate_of_mismatch {passed : Bool} {w : String} (h : (m.test x).outcome = .ok passed)
    (hw : ∀ d, (m.explain x d).outcome = .ok (d.appendText w)) :
    (m.evaluate x).outcome = .ok ⟨passed, m.text, if passed then none else some w⟩ := by
  cases passed with
  | true => exact outcome_evaluate_of_accepted h
  | false =>
    rw [outcome_evaluate_of_rejected h (hw .empty), Description.empty_appendText]
    rfl

theorem returns_evaluate [Criterion.Appending L] (h : (m.test x).Returns) : (m.evaluate x).Returns := by
  obtain ⟨w, hw⟩ := exists_mismatch h
  obtain ⟨passed, htest⟩ := h
  exact ⟨_, outcome_evaluate_of_mismatch htest hw⟩

end Matcher

instance {t : Ty} : Criterion.Appending (ValueCriterion t) where
  describe_eq l d := by
    cases l <;> simp [Criterion.describe, Description.appendValue_eq]
  exists_appends l a := by
    cases l with
    | equalTo expected =>
      exact ⟨.ok ("was " ++ t.render a), fun d => by
        simp [Criterion.explain, Description.appendValue_eq, Except.map]⟩
    | pattern h p =>
      exact ⟨.ok ("was " ++ Ty.str.render (h.text a)), fun d => by
        simp [Criterion.explain, Description.appendValue_eq, Except.map]⟩
  returns_explain {l _} _ _ := by
    cases l <;> exact .pure _

namespace Replaying

variable {c : Capability} {r : Replaying c} {target : Target c} {d : Description}

theorem outcome_explain_of_panicked {a : r.returns.Val} {p : Panic}
    (h : (r.invocation.replay r.returns target).outcome = .ok (.ok a))
    (ha : (r.inner.test a).outcome = .error p) : (r.explain target d).outcome = .error p := by
  rw [explain, outcome_bind_of_ok (outcome_value h)]
  simp only
  rw [bind_error ha]

theorem describe_eq (r : Replaying c) (d : Description) :
    r.describe d = d.appendText (r.flavor.verb ++ " " ++ r.invocation.text ++ " " ++ r.inner.text) := by
  rw [describe, Matcher.describe_eq, Invocation.describe_eq]
  simp [String.append_assoc]

theorem exists_appends_explain (r : Replaying c) (target : Target c) :
    ∃ written, Appends (r.explain target) written := by
  obtain ⟨o, ho⟩ := r.invocation.exists_outcome_replay r.returns target
  cases o with
  | error e => exact ⟨.ok (threw r.diagnostics e), fun d => outcome_explain_of_error ho⟩
  | ok a =>
    cases htest : (r.inner.test a).outcome with
    | error p => exact ⟨.error p, fun d => outcome_explain_of_panicked ho htest⟩
    | ok passed =>
      cases passed with
      | true => exact ⟨.ok "", fun d => by simp [outcome_explain_of_accepted ho htest, Except.map]⟩
      | false =>
        cases hflavor : r.flavor with
        | hasValue =>
          obtain ⟨written, hwritten⟩ := r.inner.exists_appends a
          exact ⟨written, fun d => by
            rw [outcome_explain_of_rejected ho htest, hflavor]
            exact hwritten d⟩
        | such =>
          exact ⟨.ok ("was " ++ r.returns.render a), fun d => by
            rw [outcome_explain_of_rejected ho htest, hflavor]
            simp [Description.appendValue_eq, Except.map]⟩

theorem returns_explain_of_returns_test (h : (r.test target).Returns) (d : Description) :
    (r.explain target d).Returns := by
  obtain ⟨o, ho⟩ := r.invocation.exists_outcome_replay r.returns target
  cases o with
  | error e => exact ⟨_, outcome_explain_of_error ho⟩
  | ok a =>
    obtain ⟨passed, htest⟩ := h
    rw [outcome_test_of_ok ho] at htest
    cases passed with
    | true => exact ⟨d, outcome_explain_of_accepted ho htest⟩
    | false =>
      rw [Returns, outcome_explain_of_rejected ho htest]
      cases r.flavor with
      | hasValue => exact r.inner.returns_explain_of_returns_test ⟨false, htest⟩ d
      | such => exact ⟨_, rfl⟩

end Replaying

instance {c : Capability} : Criterion.Appending (Replaying c) where
  describe_eq r d := by
    rw [show Criterion.describe r d = r.describe d from rfl,
      show Criterion.describe r .empty = r.describe .empty from rfl, r.describe_eq, r.describe_eq .empty,
      Description.empty_appendText]
  exists_appends r target := r.exists_appends_explain target
  returns_explain h d := Replaying.returns_explain_of_returns_test h d

end Facet
