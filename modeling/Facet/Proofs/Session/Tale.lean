import Facet.Proofs.Session.Account
import Facet.Proofs.Session.Outcome
import Facet.Proofs.Session.Trace

/-!
The answer of a finisher is a function of the history, and the steps of a run tell its history. The stand-ins
are numbered and the guards counted on the way, the calls are those of the steps and of the replays that they
make, and a finisher adds what the history before it calls for: nothing in a tale is read off a recorder, the
slot or the log.
-/

namespace Facet

def Deed.ofCall (k : Nat × Except CaptureError Invocation) : Deed := .called k.1 k.2

/-- A history, with the names that its stand-ins have and the number of guards that are alive. -/
structure Tale where
  history : History
  standIns : (c : Capability) → Names Nat
  guards : Nat

namespace Tale

open History

def initial : Tale := ⟨[], fun _ => [], 0⟩

def after (t : Tale) (step : Step) (ds : List Deed) : Tale :=
  ⟨t.history ++ ds, step.standInsAfter t.standIns (made t.history), step.guardsAfter t.guards⟩

/-- What a step other than a finisher adds. Of the session only the invocations and matchers that are kept
under names count, for a step may make replays of them. -/
def deeds (t : Tale) (s : Session) : Step → List Deed
  | .start c _ => [.started c]
  | .create c _ => [.created c]
  | .setConfig diagnostics reset => [.configured (some ⟨diagnostics.getD .detailed, reset.getD true⟩)]
  | .resetConfig => [.configured none]
  | .reset | .guard => [.emptied]
  | .unguard => if t.guards = 0 then [] else [.emptied]
  | step => ({ s with standIns := t.standIns }.calls step).map .ofCall

inductive Adds (t : Tale) (s : Session) : Step → List Deed → Prop
  | finished {c : Capability} {flavor : Flavor} {u : Ty} {inner : ValueMatcher u} {panicking : Bool}
      {keeping : Keeping} {i : Invocation} :
    Outcome t.history c flavor u (.ok i) →
    t.Adds s (.finish c flavor u inner panicking keeping) [.finished]
  | failed {c : Capability} {flavor : Flavor} {u : Ty} {inner : ValueMatcher u} {panicking : Bool}
      {keeping : Keeping} {e : CaptureError} :
    Outcome t.history c flavor u (.error e) → t.Adds s (.finish c flavor u inner panicking keeping) []
  | other {step : Step} : step.isFinish = false → t.Adds s step (t.deeds s step)

end Tale

/-- The steps, taken one after the other from the session, make the tale `v` of the tale `t`. -/
inductive Session.Tells : Session → Tale → List Step → Tale → Prop
  | nil {s : Session} {t : Tale} : s.Tells t [] t
  | cons {s : Session} {t v : Tale} {step : Step} {rest : List Step} {ds : List Deed} :
    t.Adds s step ds → (s.run step).2.Tells (t.after step ds) rest v → s.Tells t (step :: rest) v

namespace Tale

open History

/-- The session is as the tale says, and without calls that are intercepted by hand. -/
structure Knows (t : Tale) (s : Session) : Prop where
  standIns : t.standIns = s.standIns
  guards : t.guards = s.guards
  reflects : Reflects s.world t.history
  named : s.WellNamed
  methods : s.world.Respects .typed

variable {t : Tale} {s : Session} {step : Step} {ds : List Deed} {c : Capability}

theorem knows_initial : initial.Knows .initial where
  standIns := rfl
  guards := rfl
  reflects := reflects_initial
  named := Session.wellNamed_initial
  methods := World.respects_initial

theorem filter_lasts_deedsOn {α : Type} (s : Session) (subject : Subject c) (run : Target c → Traced α) :
    (s.deedsOn subject run).filter Deed.lasts =
      ((s.deedsOn subject run).filterMap Deed.call?).map .ofCall := by
  simp only [Session.deedsOn]
  cases s.target? subject with
  | none => rfl
  | some target =>
    obtain ⟨target, id⟩ := target
    dsimp only
    induction (run target).notes with
    | nil => rfl
    | cons note notes ih =>
      cases note with
      | captured x =>
        cases id with
        | none => exact ih
        | some id => exact congrArg (.called id x :: ·) ih
      | replayFailed i e => exact ih

theorem Knows.deeds_eq (h : t.Knows s) (hstep : step.isFinish = false) :
    t.deeds s step = (s.deeds step).filter Deed.lasts := by
  have hcalls : (({ s with standIns := t.standIns } : Session).calls step).map Deed.ofCall =
      ((s.deeds step).filterMap Deed.call?).map .ofCall := by
    rw [h.standIns, s.call?_deeds]
  cases step with
  | call | direct => exact hcalls.trans (filter_lasts_deedsOn s _ _).symm
  | replay | evaluate =>
    refine hcalls.trans ?_
    simp only [Session.deeds]
    split
    · rfl
    · exact (filter_lasts_deedsOn s _ _).symm
  | intercept =>
    refine hcalls.trans ?_
    simp only [Session.deeds]
    split <;> rfl
  | unguard =>
    simp only [deeds, Session.deeds, h.guards]
    split <;> rfl
  | finish => cases hstep
  | _ => rfl

theorem Knows.adds_iff (h : t.Knows s) : t.Adds s step ds ↔ ds = (s.deeds step).filter Deed.lasts := by
  constructor
  · intro hadds
    cases hadds with
    | finished ho | failed ho =>
      rw [ho.deeds_finish h.reflects]
      rfl
    | other hstep => exact h.deeds_eq hstep
  · rintro rfl
    cases hstep : step.isFinish with
    | false => exact h.deeds_eq hstep ▸ .other hstep
    | true =>
      cases step with
      | finish c flavor u inner panicking keeping =>
        obtain ⟨o, ho⟩ := exists_outcome h.reflects h.methods c flavor u
        rw [ho.deeds_finish h.reflects]
        cases o with
        | error e => exact .failed ho
        | ok i => exact .finished ho
      | _ => cases hstep

theorem Knows.run (h : t.Knows s) (hstep : step.isIntercept = false) (hadds : t.Adds s step ds) :
    (t.after step ds).Knows (s.run step).2 where
  standIns := by rw [Session.standIns_run, after, h.standIns, h.reflects.made]
  guards := by rw [Session.guards_run, after, h.guards]
  reflects := by
    rw [Session.world_run, h.adds_iff.1 hadds]
    exact h.reflects.foldl
      (Session.lt_of_called h.named CallProperty.ofMethods_typed (Step.respects_of_not_isIntercept hstep))
  named := h.named.run step
  methods := h.named.respects_run CallProperty.ofMethods_typed (Step.respects_of_not_isIntercept hstep)
    h.methods

theorem Knows.exists_tells {steps : List Step} (h : t.Knows s)
    (hsteps : ∀ step ∈ steps, step.isIntercept = false) :
    ∃ v, (∀ v', s.Tells t steps v' ↔ v' = v) ∧ v.Knows (s.runAll steps).2 := by
  induction steps generalizing s t with
  | nil =>
    refine ⟨t, fun v => ⟨fun htells => ?_, fun heq => heq ▸ .nil⟩, h⟩
    cases htells
    rfl
  | cons step rest ih =>
    obtain ⟨hstep, hrest⟩ := List.forall_mem_cons.1 hsteps
    have hadds := h.adds_iff.2 (Eq.refl ((s.deeds step).filter Deed.lasts))
    obtain ⟨v, hv, hknows⟩ := ih (h.run hstep hadds) hrest
    refine ⟨v, fun v' => ⟨fun htells => ?_, fun heq => .cons hadds ((hv v').2 heq)⟩, hknows⟩
    cases htells with
    | cons hadds' htells =>
      cases h.adds_iff.1 hadds'
      exact (hv v').1 htells

end Tale

namespace Session

open History

/-- After every run of steps, none of which intercepts a call by hand, there is exactly one tale that the
steps tell, and exactly one answer that its history calls for; every finisher gives it. -/
theorem finish_answers_history {steps : List Step} (hsteps : ∀ step ∈ steps, step.isIntercept = false)
    (c : Capability) (flavor : Flavor) {u : Ty} (inner : ValueMatcher u) (panicking : Bool)
    (keeping : Keeping) :
    ∃ t, (∀ t', initial.Tells .initial steps t' ↔ t' = t) ∧
      ∃ o, (∀ o', Outcome t.history c flavor u o' ↔ o' = o) ∧
        ((initial.runAll steps).2.run (.finish c flavor u inner panicking keeping)).1 =
          .ofOutcome c flavor inner panicking
            (keeping.diagnostics.getD (config t.history).diagnostics) o := by
  obtain ⟨t, ht, hknows⟩ := Tale.knows_initial.exists_tells hsteps
  obtain ⟨o, ho⟩ := exists_outcome hknows.reflects hknows.methods c flavor u
  refine ⟨t, ht, o, fun o' => ⟨fun ho' => ?_, fun heq => heq ▸ ho⟩, ?_⟩
  · exact (ho'.eq_outcome hknows.reflects).trans (ho.eq_outcome hknows.reflects).symm
  · rw [fst_run_finish, ho.eq_outcome hknows.reflects, hknows.reflects.activeConfig]

/-- A call with an argument is kept, another call follows, and the kept one is replayed on the stand-in that
is pending. -/
theorem finish_answers_history_replayed :
    let heard : Invocation := ⟨Method.getNameWithArgument.member, [⟨.string "x", "\"x\""⟩]⟩
    let steps : List Step :=
      [.start .person "p", .call "p" Method.getNameWithArgument ("x", ()),
        .captured .person "p" (some "i"), .call "p" Method.getAge (),
        .replay .name "i" (.standIn (c := .person) "p")]
    (∀ step ∈ steps, step.isIntercept = false) ∧
    ((initial.runAll steps).2.run
      (.finish .person .hasValue .name (.anything "") false ⟨none, "m"⟩)).1 =
      .matcher (⟨.name, .hasValue, heard, .detailed, .anything ""⟩ : Replaying .person) := by
  intro heard steps
  have hsteps : ∀ step ∈ steps, step.isIntercept = false := by decide
  obtain ⟨t, ht, o, ho, hreply⟩ := finish_answers_history hsteps .person .hasValue (u := .name)
    (.anything "") false ⟨none, "m"⟩
  have htells : initial.Tells .initial steps _ :=
    .cons (.other rfl) (.cons (.other rfl) (.cons (.other rfl) (.cons (.other rfl)
      (.cons (.other rfl) .nil))))
  have hhistory : t.history =
      [.started .person, .called 0 (.ok heard), .called 0 (Method.getAge.capture ()),
        .called 0 (.ok heard)] := by
    rw [← (ht _).1 htells]
    rfl
  have hpending : Pending t.history .person 0 := by
    refine ⟨[], _, hhistory, rfl, fun mid d rest heq => ?_⟩
    have hd : d ∈ mid ++ d :: rest := by simp
    rw [← heq] at hd
    simp only [List.mem_cons, List.not_mem_nil, or_false] at hd
    rcases hd with rfl | rfl | rfl <;> exact id
  have hheard : Method.getNameWithArgument.capture ("x", ()) = .ok heard := rfl
  have hlast : LastCall t.history 0 (Method.getNameWithArgument.capture ("x", ())) := by
    rw [hheard]
    refine ⟨[_, _, _], [], hhistory, ?_⟩
    exact fun y => List.not_mem_nil
  refine ⟨hsteps, ?_⟩
  rw [hreply, ← (ho _).1 (.built hpending hlast (Method.capture_eq_ok_iff.1 hheard).2 rfl)]
  rw [hhistory]
  rfl

end Session

end Facet
