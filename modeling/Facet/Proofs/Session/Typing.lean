import Facet.Proofs.Invocation.Typing
import Facet.Proofs.Matcher.Expression
import Facet.Proofs.Session.Outcome

namespace Facet

variable {c : Capability}

structure Replaying.Typed (r : Replaying c) : Prop where
  saturated : r.invocation.Saturated
  declaring_eq : r.invocation.member.declaring = c
  returns_eq : r.invocation.member.returns = r.returns

theorem Replaying.typed_of_new {flavor : Flavor} {i : Invocation} {u : Ty} {inner : ValueMatcher u}
    {diagnostics : Diagnostics} {r : Replaying c} (hi : i.Saturated)
    (h : new c flavor i u inner diagnostics = .ok r) : r.Typed := by
  simp only [new] at h
  split at h
  next => cases h
  next hdeclaring =>
    split at h
    next => cases h
    next hreturns =>
      cases h
      exact ⟨hi, not_not.1 hdeclaring, not_not.1 hreturns⟩

def CallProperty.saturated : CallProperty := fun _ x => ∀ i, x = .ok i → i.Saturated

theorem CallProperty.ofMethods_saturated : CallProperty.saturated.OfMethods :=
  fun _ _ _ h => Invocation.saturated_of_intercept h

theorem Step.respects_saturated (step : Step) : step.Respects .saturated := by
  cases step with
  | intercept => exact fun _ h => Invocation.saturated_of_intercept h
  | _ => trivial

namespace World

variable {w : World}

theorem Respects.saturated_of_received (hw : w.Respects .saturated) {id : Nat} {i : Invocation}
    (h : w.received id = some (.ok i)) : i.Saturated := by
  obtain ⟨c, howns⟩ := exists_owns (lt_of_received h)
  exact hw id c _ howns h i rfl

theorem received_of_invocation {id : Nat} {r : Recorder} {i : Invocation}
    (hr : w.recorders[id]? = some r) (h : r.invocation = .ok i) : w.received id = some (.ok i) := by
  simp only [Recorder.invocation] at h
  rw [received, hr, Option.bind_some]
  cases hcaptured : r.captured with
  | none => simp [hcaptured] at h
  | some x => simpa [hcaptured] using h

theorem exists_received_of_pending {flavor : Flavor} {i : Invocation} (h : w.pending flavor = .ok i) :
    ∃ id, w.received id = some (.ok i) := by
  obtain ⟨id, hslot⟩ := exists_slot_of_pending h
  simp only [pending, hslot, Option.bind_some] at h
  cases hr : w.recorders[id]? with
  | none => simp [hr] at h
  | some r =>
    simp only [hr] at h
    exact ⟨id, received_of_invocation hr h⟩

theorem exists_pending_of_finish {flavor : Flavor} {u : Ty} {inner : ValueMatcher u} {r : Replaying c}
    (h : (w.finish c flavor u inner).1 = .ok r) :
    ∃ i, w.pending flavor = .ok i ∧ w.build c flavor i u inner = .ok r := by
  rw [finish_eq] at h
  cases hpending : w.pending flavor with
  | error e => simp [hpending, Except.bind] at h
  | ok i =>
    simp only [hpending, Except.bind] at h
    cases hbuild : w.build c flavor i u inner with
    | error e => simp [hbuild] at h
    | ok r' => exact ⟨i, rfl, by simpa [hbuild] using h⟩

end World

def Reply.Typed : Reply → Prop
  | .invocation i => i.Saturated
  | .matcher r => r.Typed
  | _ => True

namespace Session

variable {s : Session}

structure KeepsTyped (s : Session) : Prop where
  invocations {key : String} {i : Invocation} : s.invocations.find? key = some i → i.Saturated
  matchers {c : Capability} {key : String} {m : InstanceMatcher c} :
    (s.matchers c).find? key = some m → ∀ r ∈ m.criteria, r.Typed

namespace KeepsTyped

theorem keepInvocation (hs : s.KeepsTyped) {i : Invocation} (hi : i.Saturated) (key : String) :
    (s.keepInvocation key i).KeepsTyped where
  invocations {other j} h := by
    rw [Session.keepInvocation, Names.find?_keep] at h
    split at h
    · cases h
      exact hi
    · exact hs.invocations h
  matchers := hs.matchers

theorem keepMatcher (hs : s.KeepsTyped) {m : InstanceMatcher c} (hm : ∀ r ∈ m.criteria, r.Typed)
    (key : String) : (s.keepMatcher c key m).KeepsTyped where
  invocations := hs.invocations
  matchers {d other n} h := by
    by_cases hd : c = d
    · subst hd
      simp only [Session.keepMatcher, update_self, Names.find?_keep] at h
      split at h
      · cases h
        exact hm
      · exact hs.matchers h
    · simp only [Session.keepMatcher, update_of_ne _ _ hd] at h
      exact hs.matchers h

end KeepsTyped

structure TypedResult (o : Reply × Session) : Prop where
  reply : o.1.Typed
  keeps : o.2.KeepsTyped

theorem KeepsTyped.conclude (hs : s.KeepsTyped) (panicking : Bool) (keeping : Keeping)
    (built : Except CaptureError (Replaying c)) (hbuilt : ∀ r, built = .ok r → r.Typed) :
    TypedResult (s.conclude panicking keeping built) := by
  cases built with
  | error e => cases panicking <;> exact ⟨trivial, hs⟩
  | ok r =>
    have hr : (r.withDiagnostics (keeping.diagnostics.getD r.diagnostics)).Typed :=
      have ⟨hsaturated, hdeclaring, hreturns⟩ := hbuilt r rfl
      ⟨hsaturated, hdeclaring, hreturns⟩
    rw [conclude_ok]
    exact ⟨hr, hs.keepMatcher (List.forall_mem_singleton.2 hr) _⟩

theorem KeepsTyped.runOn (hs : s.KeepsTyped) {α : Type} (subject : Subject c)
    (run : Target c → Traced α) (reply : α → Reply) (hreply : ∀ a, (reply a).Typed) :
    TypedResult (s.runOn subject run reply) := by
  simp only [Session.runOn]
  split
  · exact ⟨trivial, hs⟩
  · refine ⟨?_, hs.invocations, hs.matchers⟩
    dsimp only
    split
    · trivial
    · exact hreply _

theorem KeepsTyped.run (hs : s.KeepsTyped) (hw : s.world.Respects .saturated) (step : Step) :
    TypedResult (s.run step) := by
  cases step with
  | call name m args | direct subject m args =>
    exact hs.runOn _ _ (fun a => .rendering (m.returns.render a)) fun _ => trivial
  | captured c name keepAs =>
    simp only [Session.run]
    split
    · exact ⟨trivial, hs⟩
    next r hr =>
      split
      · exact ⟨trivial, hs⟩
      next i hi =>
        obtain ⟨id, -, hid⟩ := Option.bind_eq_some_iff.1 hr
        have hi := hw.saturated_of_received (World.received_of_invocation hid hi)
        cases keepAs with
        | none => exact ⟨hi, hs⟩
        | some key => exact ⟨hi, hs.keepInvocation hi key⟩
  | intercept c name member arguments =>
    simp only [Session.run]
    split <;> exact ⟨trivial, hs.invocations, hs.matchers⟩
  | make member arguments keepAs =>
    simp only [Session.run]
    split
    · exact ⟨trivial, hs⟩
    next i hi =>
      have hi := Invocation.saturated_of_new hi
      exact ⟨hi, hs.keepInvocation hi keepAs⟩
  | same first second =>
    simp only [Session.run]
    split <;> exact ⟨trivial, hs⟩
  | finish c flavor u inner panicking keeping =>
    have hkeeps : { s with world := (s.world.finish c flavor u inner).2 }.KeepsTyped :=
      ⟨hs.invocations, hs.matchers⟩
    refine hkeeps.conclude panicking keeping (s.world.finish c flavor u inner).1 fun r hr => ?_
    obtain ⟨i, hi, hbuild⟩ := World.exists_pending_of_finish hr
    obtain ⟨id, hid⟩ := World.exists_received_of_pending hi
    exact Replaying.typed_of_new (hw.saturated_of_received hid) hbuild
  | build c flavor u inner name keeping =>
    simp only [Session.run]
    split
    · exact ⟨trivial, hs⟩
    next i hi => exact hs.conclude _ _ _ fun r hr => Replaying.typed_of_new (hs.invocations hi) hr
  | replay u name subject =>
    simp only [Session.run]
    split
    · exact ⟨trivial, hs⟩
    · refine hs.runOn _ _ _ fun a => ?_
      cases a <;> trivial
  | evaluate expression subject keepAs =>
    simp only [Session.run]
    split
    · exact ⟨trivial, hs⟩
    next m hm =>
      have hrun := hs.runOn subject m.examine .evaluation fun _ => trivial
      have hm := Matcher.forall_criteria_of_resolve (fun name n h => hs.matchers h) _ hm
      cases keepAs with
      | none => exact hrun
      | some key => exact ⟨hrun.reply, hrun.keeps.keepMatcher hm key⟩
  | unguard =>
    simp only [Session.run]
    split <;> exact ⟨trivial, hs.invocations, hs.matchers⟩
  | start | create | drop | setConfig | resetConfig | active | reset | guard | isSet =>
    exact ⟨trivial, hs.invocations, hs.matchers⟩

/-- The typing invariant. That names are names of stand-ins of the right capability is part of it, for a call
goes where a name says. -/
structure WellTyped (s : Session) : Prop where
  named : s.WellNamed
  received : s.world.Respects .saturated
  keeps : s.KeepsTyped

theorem wellTyped_initial : initial.WellTyped where
  named := wellNamed_initial
  received := World.respects_initial
  keeps := ⟨nofun, nofun⟩

theorem WellTyped.run (hs : s.WellTyped) (step : Step) : (s.run step).2.WellTyped where
  named := hs.named.run step
  received :=
    hs.named.respects_run CallProperty.ofMethods_saturated step.respects_saturated hs.received
  keeps := (hs.keeps.run hs.received step).keeps

theorem WellTyped.runAll (hs : s.WellTyped) (steps : List Step) :
    (∀ report ∈ (s.runAll steps).1, report.reply.Typed) ∧ (s.runAll steps).2.WellTyped := by
  induction steps generalizing s with
  | nil => exact ⟨List.forall_mem_nil _, hs⟩
  | cons step rest ih =>
    obtain ⟨hreplies, hrest⟩ := ih (hs.run step)
    exact ⟨List.forall_mem_cons.2 ⟨(hs.keeps.run hs.received step).reply, hreplies⟩, hrest⟩

/-- Where a session stores an invocation: a stand-in received it, or it is kept under a name, or a matcher
that is kept replays it. -/
inductive Stores (s : Session) : Invocation → Prop
  | received {id : Nat} {i : Invocation} : s.world.received id = some (.ok i) → s.Stores i
  | kept {key : String} {i : Invocation} : s.invocations.find? key = some i → s.Stores i
  | replayed {c : Capability} {key : String} {m : InstanceMatcher c} {r : Replaying c} :
    (s.matchers c).find? key = some m → r ∈ m.criteria → s.Stores r.invocation

theorem WellTyped.saturated (hs : s.WellTyped) {i : Invocation} (h : s.Stores i) : i.Saturated := by
  cases h with
  | received h => exact hs.received.saturated_of_received h
  | kept h => exact hs.keeps.invocations h
  | replayed h hr => exact (hs.keeps.matchers h _ hr).saturated

/-- After every run, whatever invocation is stored has all its arguments, and every matcher replays a member
of its capability with the result type of the matcher; what the run handed out is no different. Without
calls that are intercepted by hand, what a stand-in holds is a call of one of its own methods. -/
theorem stored_wellTyped (steps : List Step) :
    let s := (initial.runAll steps).2
    (∀ i, s.Stores i → i.arguments.length = i.member.arity) ∧
    (∀ (c : Capability) (key : String) (m : InstanceMatcher c), (s.matchers c).find? key = some m →
      ∀ r ∈ m.criteria,
        r.invocation.member.declaring = c ∧ r.invocation.member.returns = r.returns) ∧
    (∀ report ∈ (initial.runAll steps).1, report.reply.Typed) ∧
    ((∀ step ∈ steps, step.isIntercept = false) →
      ∀ (c : Capability) (id : Nat) (i : Invocation), s.world.Owns id c →
        s.world.received id = some (.ok i) → ∃ m : Method c, m.Types i) := by
  intro s
  obtain ⟨hreplies, hs⟩ := wellTyped_initial.runAll steps
  refine ⟨fun i hi => hs.saturated hi, fun c key m hm r hr => ?_, hreplies,
    fun hsteps c id i howns hi => ?_⟩
  · have htyped := hs.keeps.matchers hm r hr
    exact ⟨htyped.declaring_eq, htyped.returns_eq⟩
  · have hmethods := wellNamed_initial.respects_runAll CallProperty.ofMethods_typed
      (fun step hstep => Step.respects_of_not_isIntercept (hsteps step hstep)) World.respects_initial
    obtain ⟨m, args, hcapture⟩ := hmethods id c _ howns hi
    exact ⟨m, Method.types_of_capture hcapture.symm⟩

theorem stored_wellTyped_disguised :
    let lie : Member := ⟨.person, "get_name_with_argument", ["u8", "u8"], .unit⟩
    let told : Invocation := ⟨lie, [⟨.string "x", "<1>"⟩, ⟨.null, "<2>"⟩]⟩
    let heard : Invocation := ⟨Method.getNameWithArgument.member, [⟨.string "x", "\"x\""⟩]⟩
    let r : Replaying .person := ⟨.unit, .such, told, .detailed, .anything "a lie"⟩
    let steps : List Step :=
      [.create .person "p", .make lie told.arguments "i",
        .build .person .such .unit r.inner "i" ⟨none, "m"⟩,
        .evaluate (.not (.criterion "m")) (.standIn (c := .person) "p") (some "n")]
    let s := (initial.runAll steps).2
    (∀ step ∈ steps, step.isIntercept = false) ∧ s.world.Owns 0 .person ∧
      s.world.received 0 = some (.ok heard) ∧ (∃ m : Method .person, m.Types heard) ∧
      (s.matchers .person).find? "n" = some (.not (.criterion r)) ∧
      r ∈ (Matcher.not (.criterion r)).criteria ∧ told.member.declaring = .person ∧
      told.member.returns = .unit ∧ s.Stores told ∧ told.arguments.length = told.member.arity := by
  intro lie told heard r steps s
  obtain ⟨hstored, hmatchers, -, hreceived⟩ := stored_wellTyped steps
  have hsteps : ∀ step ∈ steps, step.isIntercept = false := by decide
  have hrecorder : s.world.recorders[0]? = some ⟨.person, some (.ok heard)⟩ := rfl
  have howns : s.world.Owns 0 .person := World.owns_iff.2 ⟨_, hrecorder, rfl⟩
  have hheard : s.world.received 0 = some (.ok heard) := Option.bind_eq_some_iff.2 ⟨_, hrecorder, rfl⟩
  have hfound : (s.matchers .person).find? "n" = some (.not (.criterion r)) := rfl
  have hr : r ∈ (Matcher.not (.criterion r)).criteria := by simp [Matcher.criteria]
  have htold : s.Stores told := .replayed hfound hr
  obtain ⟨hdeclaring, hreturns⟩ := hmatchers .person "n" _ hfound r hr
  exact ⟨hsteps, howns, hheard, hreceived hsteps .person 0 heard howns hheard, hfound, hr, hdeclaring,
    hreturns, htold, hstored told htold⟩

end Session

end Facet
