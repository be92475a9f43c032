import Facet.Proofs.Matcher.Formula

namespace Facet

open Traced

namespace Matcher

variable {L X : Type}

mutual

def Genuine (P : L → Prop) : Matcher L → Prop
  | .criterion l => P l
  | .anything _ => True
  | .stub _ => False
  | .not m => m.Genuine P
  | .allOf ms => GenuineAll P ms
  | .forward _ m => m.Genuine P

def GenuineAll (P : L → Prop) : List (Matcher L) → Prop
  | [] => True
  | m :: ms => m.Genuine P ∧ GenuineAll P ms

end

/-- Explaining the matcher is looking for what fails: it is a conjunction, or a criterion that searches,
behind any pointers. -/
def Searches (S : L → Prop) : Matcher L → Prop
  | .criterion l => S l
  | .allOf _ => True
  | .forward _ m => m.Searches S
  | .anything _ | .stub _ | .not _ => False

mutual

theorem Genuine.calm {P : L → Prop} : ∀ (m : Matcher L), m.Genuine P → m.Calm P
  | .criterion _, h => h
  | .anything _, _ => trivial
  | .stub _, h => h.elim
  | .not m, h => Genuine.calm m h
  | .allOf ms, h => GenuineAll.calmAll ms h
  | .forward _ m, h => Genuine.calm m h

theorem GenuineAll.calmAll {P : L → Prop} : ∀ (ms : List (Matcher L)), GenuineAll P ms → CalmAll P ms
  | [], _ => trivial
  | m :: ms, ⟨hm, hms⟩ => ⟨Genuine.calm m hm, GenuineAll.calmAll ms hms⟩

end

variable [Criterion L X] {m : Matcher L} {ms : List (Matcher L)} {x : X} {P S : L → Prop}

theorem exists_first_rejected (h : (testAll ms x).outcome = .ok false) :
    ∃ before m after, ms = before ++ m :: after ∧ (∀ n ∈ before, (n.test x).outcome = .ok true) ∧
      (m.test x).outcome = .ok false := by
  induction ms with
  | nil => cases h
  | cons m ms ih =>
    obtain ⟨hm, hms⟩ | ⟨hm, -⟩ := testAll_cases h
    · obtain ⟨before, n, after, rfl, hbefore, hn⟩ := ih hms
      exact ⟨m :: before, n, after, rfl, List.forall_mem_cons.2 ⟨hm, hbefore⟩, hn⟩
    · exact ⟨[], m, ms, rfl, nofun, hm⟩

theorem all_accepted (h : (testAll ms x).outcome = .ok true) : ∀ m ∈ ms, (m.test x).outcome = .ok true := by
  induction ms with
  | nil => nofun
  | cons m ms ih =>
    obtain ⟨hm, hms⟩ | ⟨-, hpassed⟩ := testAll_cases h
    · exact List.forall_mem_cons.2 ⟨hm, ih hms⟩
    · cases hpassed

/-- What the matcher says of the subject, in each way that it can be asked. -/
structure Accords (S : L → Prop) (m : Matcher L) (x : X) (passed : Bool) (mismatch : String) : Prop where
  tests : (m.test x).outcome = .ok passed
  explains (d : Description) : (m.explain x d).outcome = .ok (d.appendText mismatch)
  evaluates : (m.evaluate x).outcome = .ok ⟨passed, m.text, if passed then none else some mismatch⟩
  asserts : (m.assertThat x).outcome = if passed then .ok () else
    .error (.message ("assertion failed: expected " ++ m.text ++ "\n\n  but: " ++ mismatch ++ "\n"))
  ne_empty : passed = false → mismatch ≠ ""
  eq_empty_iff : m.Searches S → (mismatch = "" ↔ passed = true)

theorem outcome_assertThat_of_evaluate {v : Verdict} (h : (m.evaluate x).outcome = .ok v) :
    (m.assertThat x).outcome = if v.passed then .ok () else .error (.message v.complaint) := by
  rw [assertThat, outcome_bind_of_ok h]
  cases v.passed <;> rfl

/-- A criterion that comes to a verdict and explains every rejection. If it is one that searches, it finds
nothing in what it accepts. -/
structure Candid (S : L → Prop) (l : L) (x : X) : Prop where
  returns_test : (Criterion.test l x).Returns
  ne_empty {w : String} : (Criterion.test l x).outcome = .ok false →
    (Criterion.explain l x .empty).outcome = .ok ⟨w⟩ → w ≠ ""
  eq_empty {w : String} : S l → (Criterion.test l x).outcome = .ok true →
    (Criterion.explain l x .empty).outcome = .ok ⟨w⟩ → w = ""

variable {w : String}

theorem ne_empty_of_rejected [Criterion.Appending L] (hP : ∀ l, P l → Candid S l x) :
    ∀ (m : Matcher L), m.Genuine P → (m.test x).outcome = .ok false →
      (m.explain x .empty).outcome = .ok ⟨w⟩ → w ≠ ""
  | .criterion l, hl, h, hw => (hP l hl).ne_empty h hw
  | .not m, _, _, hw => by
    simp only [explain, describe_eq m, outcome_pure, Except.ok.injEq, Description.empty_appendText] at hw
    cases hw
    simp
  | .allOf ms, _, h, hw => by
    -- The member that decides may have no text of its own, but there is a space behind its description.
    obtain ⟨before, m, after, rfl, hbefore, hm⟩ := exists_first_rejected h
    obtain ⟨mismatch, hdecided⟩ := exists_decidedBy hbefore hm
    cases hw.symm.trans (hdecided.explains after .empty)
    simp
  | .forward _ m, hm, h, hw => ne_empty_of_rejected hP m hm h hw

theorem eq_empty_of_accepted (hP : ∀ l, P l → Candid S l x) :
    ∀ (m : Matcher L), m.Genuine P → m.Searches S → (m.test x).outcome = .ok true →
      (m.explain x .empty).outcome = .ok ⟨w⟩ → w = ""
  | .criterion l, hl, hS, h, hw => (hP l hl).eq_empty hS h hw
  | .allOf ms, _, _, h, hw => by
    have hms := outcome_explainAll_append (all_accepted h) [] .empty
    rw [List.append_nil] at hms
    cases hw.symm.trans hms
    rfl
  | .forward _ m, hm, hS, h, hw => eq_empty_of_accepted hP m hm hS h hw

theorem exists_accords [Criterion.Appending L] (hP : ∀ l, P l → Candid S l x) (hm : m.Genuine P) :
    ∃ passed mismatch, Accords S m x passed mismatch := by
  obtain ⟨passed, htest⟩ := Calm.returns_test (fun l hl => (hP l hl).returns_test) m (Genuine.calm m hm)
  obtain ⟨w, hw⟩ := exists_mismatch ⟨passed, htest⟩
  have hevaluate := outcome_evaluate_of_mismatch htest hw
  have hempty : (m.explain x .empty).outcome = .ok ⟨w⟩ := by rw [hw, Description.empty_appendText]
  have hne : passed = false → w ≠ "" := by
    rintro rfl
    exact ne_empty_of_rejected hP m hm htest hempty
  refine ⟨passed, w, htest, hw, hevaluate, ?_, hne, fun hS => ⟨fun h => ?_, ?_⟩⟩
  · rw [outcome_assertThat_of_evaluate hevaluate]
    cases passed <;> rfl
  · exact Bool.of_not_eq_false fun hpassed => hne hpassed h
  · rintro rfl
    exact eq_empty_of_accepted hP m hm hS htest hempty

end Matcher

open Matcher

theorem ValueCriterion.candid {t : Ty} (l : ValueCriterion t) (a : t.Val) :
    Candid (fun _ => False) l a where
  returns_test := Criterion.Meaning.returns_test trivial
  ne_empty _ hw := by
    cases l with
    | equalTo | pattern =>
      cases hw
      simp
  eq_empty hS := hS.elim

namespace Replaying

variable {c : Capability} {r : Replaying c}

theorem threw_ne_empty (diagnostics : Diagnostics) (e : ReplayError) : threw diagnostics e ≠ "" := by
  cases diagnostics <;> simp [threw]

theorem candid (hr : r.inner.Genuine fun _ => True) (target : Target c) :
    Candid (fun _ => True) r target where
  returns_test := Quiet.returns_test fun _ _ => Genuine.calm r.inner hr
  ne_empty {w} htest hw := by
    obtain ⟨o, ho⟩ := r.invocation.exists_outcome_replay r.returns target
    cases o with
    | error e =>
      cases hw.symm.trans (outcome_explain_of_error ho)
      simp [threw_ne_empty]
    | ok a =>
      have hinner : (r.inner.test a).outcome = .ok false := (outcome_test_of_ok ho).symm.trans htest
      have hrejected := hw.symm.trans (outcome_explain_of_rejected ho hinner)
      cases hflavor : r.flavor with
      | hasValue =>
        rw [hflavor] at hrejected
        exact ne_empty_of_rejected (fun l _ => l.candid a) r.inner hr hinner hrejected.symm
      | such =>
        rw [hflavor] at hrejected
        cases hrejected
        simp
  eq_empty {w} _ htest hw := by
    obtain ⟨o, ho⟩ := r.invocation.exists_outcome_replay r.returns target
    cases o with
    | error e => cases htest.symm.trans (outcome_test_of_error ho)
    | ok a =>
      have hinner : (r.inner.test a).outcome = .ok true := (outcome_test_of_ok ho).symm.trans htest
      cases hw.symm.trans (outcome_explain_of_accepted ho hinner)
      rfl

end Replaying

/-- An expression without test doubles explains all that it rejects, and does not complain of what it
accepts. An assertion panics with the explanation. -/
theorem Matcher.verdict_accords_with_explanation :
    (∀ (t : Ty) (m : ValueMatcher t), m.Genuine (fun _ => True) → ∀ a : t.Val,
      ∃ passed mismatch, m.Accords (fun _ => False) a passed mismatch) ∧
    ∀ (c : Capability) (m : InstanceMatcher c), m.Genuine (fun r => r.inner.Genuine fun _ => True) →
      ∀ target : Target c, ∃ passed mismatch, m.Accords (fun _ => True) target passed mismatch := by
  refine ⟨fun t m hm a => ?_, fun c m hm target => ?_⟩
  · exact exists_accords (fun l _ => l.candid a) hm
  · exact exists_accords (fun _ hr => Replaying.candid hr target) hm

theorem Matcher.verdict_accords_with_explanation_boxed :
    let inner : ValueMatcher .name := .allOf [.anything "x", .not (.anything "")]
    let m : InstanceMatcher .person :=
      .forward .box (.criterion ⟨.name, .hasValue, ⟨Method.getName.member, []⟩, .detailed, inner⟩)
    let target : Target .person := .real (.person "p" (.clamp .u32 3))
    m.Genuine (fun r => r.inner.Genuine fun _ => True) ∧
      ∃ mismatch, m.Accords (fun _ => True) target false mismatch ∧ mismatch ≠ "" := by
  intro inner m target
  have hm : m.Genuine (fun r => r.inner.Genuine fun _ => True) := ⟨trivial, trivial, trivial⟩
  obtain ⟨passed, mismatch, h⟩ := verdict_accords_with_explanation.2 .person m hm target
  have htest : (m.test target).outcome = .ok false := rfl
  cases h.tests.symm.trans htest
  exact ⟨hm, mismatch, h, h.ne_empty rfl⟩

end Facet
