import Facet.Proofs.Matcher.Formula
import Mathlib.Logic.Relation

namespace Facet

namespace Matcher

variable {L X : Type} {m m' : Matcher L} {ms : List (Matcher L)}

/-! ### Laws, at any place in an expression -/

abbrev Law : Type 1 := (L : Type) → Matcher L → Matcher L → Prop

inductive BooleanLaw (L : Type) : Matcher L → Matcher L → Prop
  | permute {ms ms' : List (Matcher L)} : ms.Perm ms' → BooleanLaw L (.allOf ms) (.allOf ms')
  | duplicate {m : Matcher L} {ms : List (Matcher L)} : m ∈ ms → BooleanLaw L (.allOf ms) (.allOf (m :: ms))
  | flatten (before ms after : List (Matcher L)) :
    BooleanLaw L (.allOf (before ++ .allOf ms :: after)) (.allOf (before ++ ms ++ after))
  | negateTwice (m : Matcher L) : BooleanLaw L m (.not (.not m))

inductive PointerLaw (L : Type) : Matcher L → Matcher L → Prop
  | forward (p : Pointer) (m : Matcher L) : PointerLaw L m (.forward p m)

/-- The law is applied once, at some place. The criteria may change as `within` says. -/
inductive Rewrites (law : Law) (within : L → L → Prop) : Matcher L → Matcher L → Prop
  | law {m m' : Matcher L} : law L m m' → Rewrites law within m m'
  | criterion {l l' : L} : within l l' → Rewrites law within (.criterion l) (.criterion l')
  | not {m m' : Matcher L} : Rewrites law within m m' → Rewrites law within (.not m) (.not m')
  | member {m m' : Matcher L} (before after : List (Matcher L)) : Rewrites law within m m' →
    Rewrites law within (.allOf (before ++ m :: after)) (.allOf (before ++ m' :: after))
  | forward {m m' : Matcher L} (p : Pointer) : Rewrites law within m m' →
    Rewrites law within (.forward p m) (.forward p m')

structure Congruence (within : L → L → Prop) (E : Matcher L → Matcher L → Prop) : Prop where
  equivalence : Equivalence E
  criterion {l l' : L} : within l l' → E (.criterion l) (.criterion l')
  not {m m' : Matcher L} : E m m' → E (.not m) (.not m')
  member {m m' : Matcher L} (before after : List (Matcher L)) : E m m' →
    E (.allOf (before ++ m :: after)) (.allOf (before ++ m' :: after))
  forward {m m' : Matcher L} (p : Pointer) : E m m' → E (.forward p m) (.forward p m')

theorem Congruence.of_rewrites {law : Law} {within : L → L → Prop} {E : Matcher L → Matcher L → Prop}
    (hE : Congruence within E) (hlaw : ∀ m m', law L m m' → E m m')
    (h : Relation.EqvGen (Rewrites law within) m m') : E m m' := by
  refine hE.equivalence.eqvGen_iff.1 (Relation.EqvGen.mono (fun m m' h => ?_) _ _ h)
  induction h with
  | law h => exact hlaw _ _ h
  | criterion h => exact hE.criterion h
  | not _ ih => exact hE.not ih
  | member before after _ ih => exact hE.member before after ih
  | forward p _ ih => exact hE.forward p ih

/-! ### Equal values -/

section Value

variable [Criterion L X] [Criterion.Meaning L] {x : X}

theorem congruence_holds {within : L → L → Prop}
    (h : ∀ l l', within l l' → Criterion.Meaning.holds l x = Criterion.Meaning.holds l' x) :
    Congruence within fun m m' : Matcher L => m.holds x = m'.holds x where
  equivalence := ⟨fun _ => rfl, Eq.symm, Eq.trans⟩
  criterion := h _ _
  not hm := by simp only [holds, hm]
  member before after hm := by simp only [holds, holdsAll_eq_all, List.all_append, List.all_cons, hm]
  forward p hm := by simpa only [holds] using hm

theorem BooleanLaw.holds_eq (h : BooleanLaw L m m') : m.holds x = m'.holds x := by
  cases h with
  | permute hms => simp only [holds, holdsAll_eq_all, hms.all_eq]
  | @duplicate m ms hm =>
    simp only [holds, holdsAll_eq_all, List.all_cons]
    cases hall : ms.all (·.holds x) with
    | false => simp
    | true => simp [List.all_eq_true.1 hall m hm]
  | flatten before ms after =>
    simp only [holds, holdsAll_eq_all, List.all_append, List.all_cons, Bool.and_assoc]
  | negateTwice m => simp only [holds, Bool.not_not]

end Value

theorem calmAll_iff {P : L → Prop} : CalmAll P ms ↔ ∀ m ∈ ms, m.Calm P := by
  induction ms with
  | nil => simp [CalmAll]
  | cons m ms ih => rw [CalmAll, ih, List.forall_mem_cons]

theorem congruence_calm {P : L → Prop} {within : L → L → Prop} (h : ∀ l l', within l l' → (P l ↔ P l')) :
    Congruence within fun m m' : Matcher L => m.Calm P ↔ m'.Calm P where
  equivalence := ⟨fun _ => .rfl, Iff.symm, Iff.trans⟩
  criterion := h _ _
  not hm := hm
  member before after hm := by
    simp only [Calm, calmAll_iff, List.forall_mem_append, List.forall_mem_cons, hm]
  forward p hm := hm

theorem BooleanLaw.calm_iff {P : L → Prop} (h : BooleanLaw L m m') : m.Calm P ↔ m'.Calm P := by
  cases h with
  | permute hms => simp only [Calm, calmAll_iff, hms.mem_iff]
  | duplicate hm =>
    simp only [Calm, calmAll_iff, List.forall_mem_cons]
    exact ⟨fun h => ⟨h _ hm, h⟩, And.right⟩
  | flatten before ms after =>
    simp only [Calm, calmAll_iff, List.forall_mem_append, List.forall_mem_cons, and_assoc]
  | negateTwice m => exact .rfl

/-! ### Equal readings -/

section Reading

variable [Criterion L X] {before after : List (Matcher L)}

structure ReadsAlike (m m' : Matcher L) : Prop where
  describe_eq (d : Description) : m.describe d = m'.describe d
  test_eq (x : X) : m.test x = m'.test x
  explain_eq (x : X) (d : Description) : m.explain x d = m'.explain x d

namespace ReadsAlike

theorem describeRest_eq (h : ReadsAlike m m') (d : Description) :
    describeRest (before ++ m :: after) d = describeRest (before ++ m' :: after) d := by
  induction before generalizing d with
  | nil => simp only [List.nil_append, describeRest, h.describe_eq]
  | cons n before ih => simp only [List.cons_append, describeRest, ih]

theorem describeAll_eq (h : ReadsAlike m m') (d : Description) :
    describeAll (before ++ m :: after) d = describeAll (before ++ m' :: after) d := by
  cases before with
  | nil => simp only [List.nil_append, describeAll, h.describe_eq]
  | cons n before => simp only [List.cons_append, describeAll, h.describeRest_eq]

theorem testAll_eq (h : ReadsAlike m m') (x : X) :
    testAll (before ++ m :: after) x = testAll (before ++ m' :: after) x := by
  induction before with
  | nil => simp only [List.nil_append, testAll, h.test_eq]
  | cons n before ih => simp only [List.cons_append, testAll, ih]

theorem explainAll_eq (h : ReadsAlike m m') (x : X) (d : Description) :
    explainAll (before ++ m :: after) x d = explainAll (before ++ m' :: after) x d := by
  induction before with
  | nil => simp only [List.nil_append, explainAll, h.test_eq, h.describe_eq, h.explain_eq]
  | cons n before ih => simp only [List.cons_append, explainAll, ih]

theorem evaluate_eq (h : ReadsAlike m m') (x : X) : m.evaluate x = m'.evaluate x := by
  simp only [evaluate, h.describe_eq, h.test_eq, h.explain_eq]

end ReadsAlike

theorem congruence_readsAlike {within : L → L → Prop}
    (h : ∀ l l', within l l' → ReadsAlike (.criterion l) (.criterion l')) :
    Congruence within (ReadsAlike (L := L)) where
  equivalence :=
    { refl := fun _ => ⟨fun _ => rfl, fun _ => rfl, fun _ _ => rfl⟩
      symm := fun h => ⟨fun d => (h.describe_eq d).symm, fun x => (h.test_eq x).symm,
        fun x d => (h.explain_eq x d).symm⟩
      trans := fun h h' => ⟨fun d => (h.describe_eq d).trans (h'.describe_eq d),
        fun x => (h.test_eq x).trans (h'.test_eq x),
        fun x d => (h.explain_eq x d).trans (h'.explain_eq x d)⟩ }
  criterion := h _ _
  not hm :=
    { describe_eq := fun d => by simp only [describe, hm.describe_eq]
      test_eq := fun x => by simp only [test, hm.test_eq]
      explain_eq := fun x d => by simp only [explain, hm.describe_eq] }
  member before after hm :=
    { describe_eq := fun d => by simp only [describe, hm.describeAll_eq]
      test_eq := fun x => by simp only [test, hm.testAll_eq]
      explain_eq := fun x d => by simp only [explain, hm.explainAll_eq] }
  forward p hm := ⟨hm.describe_eq, hm.test_eq, hm.explain_eq⟩

theorem PointerLaw.readsAlike (h : PointerLaw L m m') : ReadsAlike m m' := by
  cases h with
  | forward p m => exact ⟨fun _ => rfl, fun _ => rfl, fun _ _ => rfl⟩

end Reading

/-! ### All laws -/

/-- On the subject the matcher is the formula that it looks like. Criteria change with a law as `within`
says. -/
structure Logical [Criterion L X] [Criterion.Meaning L] (within : Law → L → L → Prop) (m : Matcher L)
    (x : X) : Prop where
  passed_eq {v : Verdict} : (m.evaluate x).outcome = .ok v → v.passed = m.holds x
  returns : m.Quiet x → (m.evaluate x).Returns
  rewritten {m' : Matcher L} : Relation.EqvGen (Rewrites BooleanLaw (within BooleanLaw)) m m' →
    (m.Quiet x ↔ m'.Quiet x) ∧ ∀ v v', (m.evaluate x).outcome = .ok v →
      (m'.evaluate x).outcome = .ok v' → v'.passed = v.passed
  wrapped {m' : Matcher L} : Relation.EqvGen (Rewrites PointerLaw (within PointerLaw)) m m' →
    m'.evaluate x = m.evaluate x
  decides {before : List (Matcher L)} : (∀ n ∈ before, (n.test x).outcome = .ok true) →
    (m.test x).outcome = .ok false → ∃ mismatch, DecidedBy before m x mismatch

theorem logical_of_within [Criterion L X] [Criterion.Meaning L] [Criterion.Appending L]
    {within : Law → L → L → Prop} {x : X}
    (hholds : ∀ l l', within BooleanLaw l l' → Criterion.Meaning.holds l x = Criterion.Meaning.holds l' x)
    (hquiet : ∀ l l', within BooleanLaw l l' → (Criterion.Meaning.Quiet l x ↔ Criterion.Meaning.Quiet l' x))
    (halike : ∀ l l', within PointerLaw l l' → ReadsAlike (.criterion l) (.criterion l'))
    (m : Matcher L) : Logical within m x := by
  have hpassed {m : Matcher L} {v : Verdict} (h : (m.evaluate x).outcome = .ok v) :
      v.passed = m.holds x := (holds_eq_of_outcome m (outcome_test_of_evaluate h)).symm
  refine ⟨hpassed, fun h => returns_evaluate h.returns_test, fun h => ⟨?_, fun v v' hv hv' => ?_⟩,
    fun h => ?_, exists_decidedBy⟩
  · exact (congruence_calm hquiet).of_rewrites (fun _ _ h => h.calm_iff) h
  · have hvalue := (congruence_holds hholds).of_rewrites (fun _ _ h => h.holds_eq) h
    rw [hpassed hv, hpassed hv', hvalue]
  · exact ((congruence_readsAlike halike).of_rewrites (fun _ _ h => h.readsAlike) h).evaluate_eq x |>.symm

end Matcher

namespace Replaying

open Matcher

variable {c : Capability} {r r' : Replaying c} {target : Target c}

inductive RewritesInner (law : Law) : Replaying c → Replaying c → Prop
  | inner {r : Replaying c} {inner : ValueMatcher r.returns} :
    Rewrites law (fun _ _ => False) r.inner inner → RewritesInner law r (r.withInner inner)

theorem RewritesInner.holds_eq (h : RewritesInner BooleanLaw r r') : r.holds target = r'.holds target := by
  cases h with
  | @inner inner h =>
    have hinner (a : r.returns.Val) : r.inner.holds a = inner.holds a :=
      (congruence_holds nofun).of_rewrites (fun _ _ h => h.holds_eq) (.rel _ _ h)
    obtain ⟨o, ho⟩ := r.invocation.exists_outcome_replay r.returns target
    have ho' : ((r.withInner inner).invocation.replay (r.withInner inner).returns target).outcome = .ok o := ho
    rw [Replaying.holds, Replaying.holds, ho, ho']
    cases o with
    | error e => rfl
    | ok a => exact hinner a

theorem RewritesInner.quiet_iff (h : RewritesInner BooleanLaw r r') : r.Quiet target ↔ r'.Quiet target := by
  cases h with
  | @inner inner h =>
    have hinner (a : r.returns.Val) : r.inner.Quiet a ↔ inner.Quiet a :=
      (congruence_calm nofun).of_rewrites (fun _ _ h => h.calm_iff) (.rel _ _ h)
    exact forall_congr' fun a => imp_congr_right fun _ => hinner a

theorem value_eq_of_ok {a : r.returns.Val}
    (h : (r.invocation.replay r.returns target).outcome = .ok (.ok a)) :
    r.value target = ⟨.ok (.ok a), (r.invocation.replay r.returns target).notes⟩ := by
  rw [value, Traced.bind_ok h]
  simp

theorem test_eq_of_ok {a : r.returns.Val}
    (h : (r.invocation.replay r.returns target).outcome = .ok (.ok a)) :
    r.test target = ⟨(r.inner.test a).outcome,
      (r.invocation.replay r.returns target).notes ++ (r.inner.test a).notes⟩ := by
  rw [test, value_eq_of_ok h, Traced.bind_ok rfl]

def explainValue (r : Replaying c) (a : r.returns.Val) (d : Description) : Traced Description := do
  if ← r.inner.test a then return d
  else
    match r.flavor with
    | .hasValue => r.inner.explain a d
    | .such => return (d.appendText "was ").appendValue r.returns a

theorem explain_eq_of_ok {a : r.returns.Val} {d : Description}
    (h : (r.invocation.replay r.returns target).outcome = .ok (.ok a)) :
    r.explain target d = ⟨(r.explainValue a d).outcome,
      (r.invocation.replay r.returns target).notes ++ (r.explainValue a d).notes⟩ := by
  rw [explain, value_eq_of_ok h, Traced.bind_ok rfl]
  rfl

theorem RewritesInner.readsAlike (h : RewritesInner PointerLaw r r') :
    ReadsAlike (.criterion r) (.criterion r') := by
  cases h with
  | @inner inner h =>
    have hinner : ReadsAlike r.inner inner :=
      (congruence_readsAlike nofun).of_rewrites (fun _ _ h => h.readsAlike) (.rel _ _ h)
    have hvalue (a : r.returns.Val) (d : Description) :
        (r.withInner inner).explainValue a d = r.explainValue a d := by
      simp only [explainValue, hinner.test_eq, hinner.explain_eq]
      rfl
    refine ⟨fun d => hinner.describe_eq _, fun target => ?_, fun target d => ?_⟩
    all_goals obtain ⟨o, ho⟩ := r.invocation.exists_outcome_replay r.returns target
    · cases o with
      | error e => exact (test_eq_of_error ho).trans (test_eq_of_error (r := r.withInner inner) ho).symm
      | ok a =>
        refine (test_eq_of_ok ho).trans ((test_eq_of_ok (r := r.withInner inner) ho).trans ?_).symm
        rw [hinner.test_eq a]
        rfl
    · cases o with
      | error e => exact (explain_eq_of_error ho).trans (explain_eq_of_error (r := r.withInner inner) ho).symm
      | ok a =>
        refine (explain_eq_of_ok ho).trans ((explain_eq_of_ok (r := r.withInner inner) ho).trans ?_).symm
        rw [hvalue]
        rfl

end Replaying

/-- Matchers for values and for instances obey the laws of logic, also in the inner matcher of a captured
call. -/
theorem Matcher.obeys_boolean_laws :
    (∀ (t : Ty) (m : ValueMatcher t) (a : t.Val), m.Logical (fun _ _ _ => False) a) ∧
    ∀ (c : Capability) (m : InstanceMatcher c) (target : Target c),
      m.Logical (fun law => Replaying.RewritesInner law) target := by
  refine ⟨fun t m a => logical_of_within nofun nofun nofun m, fun c m target => ?_⟩
  exact logical_of_within (fun _ _ h => h.holds_eq) (fun _ _ h => h.quiet_iff)
    (fun _ _ h => h.readsAlike) m

/-- The second member of the conjunction decides, so that a third one that would panic is not reached. The
captured call is wrapped, and negated twice, in its inner matcher. -/
theorem Matcher.obeys_boolean_laws_unreached :
    let isTrue : ValueMatcher .bool := .criterion (.equalTo true)
    let panics : ValueMatcher .bool := .stub ⟨true, "", "", some "boom"⟩
    let isAda : Replaying .person :=
      ⟨.name, .hasValue, ⟨Method.getName.member, []⟩, .detailed, .criterion (.equalTo ⟨"Ada"⟩)⟩
    let negated : InstanceMatcher .person := .not (.criterion (isAda.withInner (.not (.not isAda.inner))))
    let wrapped : InstanceMatcher .person := .not (.criterion (isAda.withInner (.forward .box isAda.inner)))
    let bob : Target .person := .real (.person "Bob" ⟨36, by decide⟩)
    (isTrue.Quiet false ∧ (isTrue.evaluate false).Returns ∧
      Relation.EqvGen (Rewrites BooleanLaw fun _ _ => False) isTrue (.not (.not isTrue)) ∧
      (∀ v v', (isTrue.evaluate false).outcome = .ok v →
        ((Matcher.not (.not isTrue)).evaluate false).outcome = .ok v' → v'.passed = v.passed) ∧
      ∃ mismatch, ((Matcher.allOf [.not isTrue, isTrue, panics]).explain false .empty).outcome =
        .ok (Description.empty.appendText (isTrue.text ++ " " ++ mismatch))) ∧
    (Matcher.not (.criterion isAda)).Quiet bob ∧ negated.Quiet bob ∧
      Relation.EqvGen (Rewrites BooleanLaw (Replaying.RewritesInner BooleanLaw))
        (.not (.criterion isAda)) negated ∧
      (∀ v v', ((Matcher.not (.criterion isAda)).evaluate bob).outcome = .ok v →
        (negated.evaluate bob).outcome = .ok v' → v'.passed = v.passed) ∧
      Relation.EqvGen (Rewrites PointerLaw (Replaying.RewritesInner PointerLaw))
        (.not (.criterion isAda)) wrapped ∧
      wrapped.evaluate bob = (Matcher.not (.criterion isAda)).evaluate bob := by
  intro isTrue panics isAda negated wrapped bob
  constructor
  · have h := obeys_boolean_laws.1 .bool isTrue false
    have hquiet : isTrue.Quiet false := trivial
    have hrewritten : Relation.EqvGen (Rewrites BooleanLaw fun _ _ => False) isTrue (.not (.not isTrue)) :=
      .rel _ _ (.law (.negateTwice isTrue))
    have hbefore : ∀ n ∈ [Matcher.not isTrue], (n.test false).outcome = .ok true :=
      List.forall_mem_cons.2 ⟨rfl, nofun⟩
    obtain ⟨mismatch, hdecided⟩ := h.decides hbefore rfl
    exact ⟨hquiet, h.returns hquiet, hrewritten, (h.rewritten hrewritten).2, mismatch,
      hdecided.explains [panics] .empty⟩
  · have h := obeys_boolean_laws.2 .person (.not (.criterion isAda)) bob
    have hquiet : (Matcher.not (.criterion isAda)).Quiet bob := fun _ _ => trivial
    have hnegated : Relation.EqvGen (Rewrites BooleanLaw (Replaying.RewritesInner BooleanLaw))
        (.not (.criterion isAda)) negated :=
      .rel _ _ (.not (.criterion (.inner (.law (.negateTwice isAda.inner)))))
    have hwrapped : Relation.EqvGen (Rewrites PointerLaw (Replaying.RewritesInner PointerLaw))
        (.not (.criterion isAda)) wrapped :=
      .rel _ _ (.not (.criterion (.inner (.law (.forward .box isAda.inner)))))
    obtain ⟨hquiet', hpassed⟩ := h.rewritten hnegated
    exact ⟨hquiet, hquiet'.1 hquiet, hnegated, hpassed, hwrapped, h.wrapped hwrapped⟩

end Facet
