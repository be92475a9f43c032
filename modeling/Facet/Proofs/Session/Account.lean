import Facet.Proofs.Matcher.Consultation
import Facet.Proofs.Session.Calls

namespace Facet

variable {c : Capability}

def Note.call? : Note → Option (Except CaptureError Invocation)
  | .captured x => some x
  | .replayFailed .. => none

def Note.failure? : Note → Option (Invocation × ReplayError)
  | .captured _ => none
  | .replayFailed i e => some (i, e)

def Deed.call? : Deed → Option (Nat × Except CaptureError Invocation)
  | .called id x => some (id, x)
  | _ => none

def Deed.failure? : Deed → Option (Invocation × ReplayError)
  | .replayFailed i e => some (i, e)
  | _ => none

namespace Invocation

def call? (i : Invocation) (c : Capability) : Option (Except CaptureError Invocation) :=
  match i.resolve c with
  | .error _ => none
  | .ok ⟨m, args⟩ => some (m.capture args)

theorem notes_replay (i : Invocation) (u : Ty) (target : Target c) :
    (i.replay u target).notes = match target with
      | .real _ => []
      | .standIn => (i.call? c).toList.map .captured := by
  simp only [replay, call?]
  cases i.resolve c <;> cases target <;> rfl

theorem call?_notes_replay (i : Invocation) (u : Ty) (target : Target c) :
    (i.replay u target).notes.filterMap Note.call? = match target with
      | .real _ => []
      | .standIn => (i.call? c).toList := by
  rw [notes_replay]
  cases target with
  | real a => rfl
  | standIn => cases i.call? c <;> rfl

theorem failure?_notes_replay (i : Invocation) (u : Ty) (target : Target c) :
    (i.replay u target).notes.filterMap Note.failure? = [] := by
  rw [notes_replay]
  cases target with
  | real a => rfl
  | standIn => cases i.call? c <;> rfl

end Invocation

namespace Replaying

variable (r : Replaying c) (target : Target c)

def failure? : Option ReplayError :=
  match (r.invocation.replay r.returns target).outcome with
  | .ok (.error e) => some e
  | _ => none

def trail : List Note :=
  (r.invocation.replay r.returns target).notes ++
    ((r.failure? target).map (Note.replayFailed r.invocation)).toList

theorem notes_value : (r.value target).notes = r.trail target := by
  rw [value, Traced.notes_bind, trail, failure?]
  cases (r.invocation.replay r.returns target).outcome with
  | error p => rfl
  | ok replayed => cases replayed <;> rfl

theorem notes_test : (r.test target).notes = r.trail target := by
  rw [test, Traced.notes_bind, notes_value]
  cases (r.value target).outcome with
  | error p => simp
  | ok replayed =>
    cases replayed with
    | error e => simp
    | ok a => simp [Traced.notes_eq_nil_of_leaves (ValueMatcher.leaves_test r.inner a)]

theorem notes_explain (d : Description) : (r.explain target d).notes = r.trail target := by
  rw [explain, Traced.notes_bind, notes_value]
  cases (r.value target).outcome with
  | error p => simp
  | ok replayed =>
    cases replayed with
    | error e => simp
    | ok a =>
      simp only [Traced.notes_bind, Traced.notes_eq_nil_of_leaves (ValueMatcher.leaves_test r.inner a)]
      cases (r.inner.test a).outcome with
      | error p => simp
      | ok passed =>
        cases passed with
        | true => simp
        | false =>
          cases r.flavor with
          | hasValue => simp [Traced.notes_eq_nil_of_leaves (ValueMatcher.leaves_explain r.inner a d)]
          | such => simp

theorem call?_trail :
    (r.trail target).filterMap Note.call? = match target with
      | .real _ => []
      | .standIn => (r.invocation.call? c).toList := by
  rw [trail, List.filterMap_append, Invocation.call?_notes_replay]
  cases r.failure? target <;> exact List.append_nil _

theorem failure?_trail :
    (r.trail target).filterMap Note.failure? = ((r.failure? target).map (r.invocation, ·)).toList := by
  rw [trail, List.filterMap_append, Invocation.failure?_notes_replay, List.nil_append]
  cases r.failure? target <;> rfl

end Replaying

theorem InstanceMatcher.notes_examine (m : InstanceMatcher c) (target : Target c) :
    (m.examine target).notes = (m.examined target).flatMap (·.trail target) :=
  Matcher.notes_examine Replaying.notes_test Replaying.notes_explain m target

namespace Session

variable (s : Session)

def callsOn (subject : Subject c) (received : List (Except CaptureError Invocation)) :
    List (Nat × Except CaptureError Invocation) :=
  match s.target? subject with
  | some (_, some id) => received.map (id, ·)
  | _ => []

def replays (expression : Matcher String) (subject : Subject c) : List (Replaying c) :=
  match expression.resolve (s.matchers c).find?, s.target? subject with
  | .ok m, some (target, _) => m.examined target
  | _, _ => []

/-- The calls that stand-ins receive in a step, written by the caller or made by a replay. -/
def calls : Step → List (Nat × Except CaptureError Invocation)
  | .call (c := c) name m args => s.callsOn (c := c) (.standIn name) [m.capture args]
  | .direct subject m args => s.callsOn subject [m.capture args]
  | .intercept c name member arguments =>
    s.callsOn (c := c) (.standIn name) [Facet.intercept member arguments]
  | .replay (c := c) _ key subject =>
    s.callsOn subject ((s.invocations.find? key).bind (·.call? c)).toList
  | .evaluate (c := c) expression subject _ =>
    s.callsOn subject ((s.replays expression subject).filterMap (·.invocation.call? c))
  | _ => []

def failures : Step → List (Invocation × ReplayError)
  | .evaluate expression subject _ =>
    match s.target? subject with
    | none => []
    | some (target, _) => (s.replays expression subject).filterMap fun r =>
      (r.failure? target).map (r.invocation, ·)
  | _ => []

theorem call?_deedsOn {α : Type} (subject : Subject c) (run : Target c → Traced α) :
    (s.deedsOn subject run).filterMap Deed.call? =
      s.callsOn subject ((run .standIn).notes.filterMap Note.call?) := by
  cases subject with
  | real a =>
    simp only [deedsOn, callsOn, target?, List.filterMap_filterMap]
    refine List.filterMap_eq_nil_iff.2 fun n _ => ?_
    cases n <;> rfl
  | standIn name =>
    simp only [deedsOn, callsOn, target?]
    cases (s.standIns c).find? name with
    | none => rfl
    | some id =>
      simp only [Option.map_some, List.filterMap_filterMap, List.map_filterMap]
      congr 1
      funext n
      cases n <;> rfl

theorem failure?_deedsOn {α : Type} (subject : Subject c) (run : Target c → Traced α) :
    (s.deedsOn subject run).filterMap Deed.failure? = match s.target? subject with
      | none => []
      | some (target, _) => (run target).notes.filterMap Note.failure? := by
  simp only [deedsOn]
  cases s.target? subject with
  | none => rfl
  | some t =>
    obtain ⟨target, id⟩ := t
    simp only [List.filterMap_filterMap]
    congr 1
    funext n
    cases n with
    | captured x => cases id <;> rfl
    | replayFailed i e => rfl

theorem failure?_deedsOn_eq_nil {α : Type} {subject : Subject c} {run : Target c → Traced α}
    (h : ∀ target, (run target).notes.filterMap Note.failure? = []) :
    (s.deedsOn subject run).filterMap Deed.failure? = [] := by
  rw [failure?_deedsOn]
  cases s.target? subject with
  | none => rfl
  | some t => exact h t.1

theorem callsOn_nil (subject : Subject c) : s.callsOn subject [] = [] := by
  simp only [callsOn]
  split <;> rfl

theorem call?_deeds_evaluate (expression : Matcher String) (subject : Subject c)
    (keepAs : Option String) :
    (s.deeds (.evaluate expression subject keepAs)).filterMap Deed.call? =
      s.callsOn subject ((s.replays expression subject).filterMap (·.invocation.call? c)) := by
  simp only [deeds, replays]
  cases expression.resolve (s.matchers c).find? with
  | error name => exact (s.callsOn_nil subject).symm
  | ok m =>
    rw [call?_deedsOn, InstanceMatcher.notes_examine, List.filterMap_flatMap]
    simp only [Replaying.call?_trail, ← List.filterMap_eq_flatMap_toList]
    cases subject with
    | real a => rfl
    | standIn name =>
      simp only [callsOn, target?]
      cases (s.standIns c).find? name <;> rfl

theorem call?_deeds (step : Step) : (s.deeds step).filterMap Deed.call? = s.calls step := by
  cases step with
  | call name m args | direct subject m args => exact s.call?_deedsOn _ _
  | intercept c name member arguments =>
    simp only [deeds, calls, callsOn, target?]
    cases (s.standIns c).find? name <;> rfl
  | @replay c u key subject =>
    simp only [deeds, calls]
    cases s.invocations.find? key with
    | none => exact (s.callsOn_nil _).symm
    | some i =>
      rw [call?_deedsOn, Invocation.call?_notes_replay, Option.bind_some]
  | evaluate expression subject keepAs => exact s.call?_deeds_evaluate expression subject keepAs
  | finish =>
    simp only [deeds, calls]
    split <;> rfl
  | unguard =>
    simp only [deeds, calls]
    split <;> rfl
  | _ => rfl

theorem failure?_deeds (step : Step) : (s.deeds step).filterMap Deed.failure? = s.failures step := by
  cases step with
  | call name m args | direct subject m args =>
    exact s.failure?_deedsOn_eq_nil fun target => by cases target <;> rfl
  | intercept c name member arguments =>
    simp only [deeds, failures]
    cases (s.standIns c).find? name <;> rfl
  | @replay c u key subject =>
    simp only [deeds, failures]
    cases s.invocations.find? key with
    | none => rfl
    | some i =>
      exact s.failure?_deedsOn_eq_nil (i.failure?_notes_replay u)
  | @evaluate c expression subject keepAs =>
    simp only [deeds, failures, replays]
    cases expression.resolve (s.matchers c).find? with
    | error name => cases s.target? subject <;> rfl
    | ok m =>
      rw [failure?_deedsOn]
      cases s.target? subject with
      | none => rfl
      | some t =>
        simp only [InstanceMatcher.notes_examine, List.filterMap_flatMap, Replaying.failure?_trail,
          ← List.filterMap_eq_flatMap_toList]
  | finish =>
    simp only [deeds, failures]
    split <;> rfl
  | unguard =>
    simp only [deeds, failures]
    split <;> rfl
  | _ => rfl

end Session

end Facet
