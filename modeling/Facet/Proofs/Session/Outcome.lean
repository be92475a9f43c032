import Facet.Proofs.Invocation.Replay
import Facet.Proofs.Session.Calls
import Facet.Proofs.Session.Finish

namespace Facet

def Step.isIntercept : Step → Bool
  | .intercept .. => true
  | _ => false

def CallProperty.typed : CallProperty := fun c x =>
  ∃ (m : Method c) (args : Args m.params), x = m.capture args

theorem CallProperty.ofMethods_typed : CallProperty.typed.OfMethods := fun m args => ⟨m, args, rfl⟩

theorem Step.respects_of_not_isIntercept {P : CallProperty} {step : Step}
    (h : step.isIntercept = false) : step.Respects P := by
  cases step with
  | intercept => cases h
  | _ => trivial

namespace History

/-- What a finisher for a capability and a result type answers after a history. -/
inductive Outcome (h : History) (c : Capability) (flavor : Flavor) (u : Ty) :
    Except CaptureError Invocation → Prop
  | notStarted : (∀ d id, ¬ Pending h d id) → Outcome h c flavor u (.error (.notStarted flavor))
  | nothingCaptured {d : Capability} {id : Nat} :
    Pending h d id → (∀ x, ¬ LastCall h id x) → Outcome h c flavor u (.error (.nothingCaptured d))
  | refused {d : Capability} {id k : Nat} {m : Method d} {args : Args m.params} {refusal : Refusal} :
    Pending h d id → LastCall h id (m.capture args) →
    FirstRefused (captureArgs m.params args) k refusal →
    Outcome h c flavor u (.error (.capture m.member k refusal))
  | typeMismatch {d : Capability} {id : Nat} {m : Method d} {args : Args m.params}
      {captured : List Argument} :
    Pending h d id → LastCall h id (m.capture args) →
    captureArgs m.params args = captured.map .ok → d ≠ c →
    Outcome h c flavor u (.error (.typeMismatch m.member c))
  | returnTypeMismatch {id : Nat} {m : Method c} {args : Args m.params} {captured : List Argument} :
    Pending h c id → LastCall h id (m.capture args) →
    captureArgs m.params args = captured.map .ok → m.returns ≠ u →
    Outcome h c flavor u (.error (.returnTypeMismatch m.member u))
  | built {id : Nat} {m : Method c} {args : Args m.params} {captured : List Argument} :
    Pending h c id → LastCall h id (m.capture args) →
    captureArgs m.params args = captured.map .ok → m.returns = u →
    Outcome h c flavor u (.ok ⟨m.member, captured⟩)

variable {w : World} {h : History} {c : Capability} {flavor : Flavor} {u : Ty}
  {o : Except CaptureError Invocation}

theorem Reflects.pending_eq (hw : Reflects w h) {d : Capability} {id : Nat} (hid : Pending h d id)
    {x : Except CaptureError Invocation} (hx : LastCall h id x) : w.pending flavor = x := by
  obtain ⟨hslot, howns⟩ := hw.pending.1 hid
  rw [World.pending_of_slot flavor hslot howns, hw.calls.1 hx, Option.getD_some]

theorem Reflects.pending_eq_of_captured (hw : Reflects w h) {d : Capability} {id : Nat}
    (hid : Pending h d id) {m : Method d} {args : Args m.params} {captured : List Argument}
    (hx : LastCall h id (m.capture args)) (hargs : captureArgs m.params args = captured.map .ok) :
    w.pending flavor = .ok ⟨m.member, captured⟩ :=
  (hw.pending_eq hid hx).trans (Method.capture_eq_ok_iff.2 ⟨rfl, hargs⟩)

theorem Outcome.eq_outcome (ho : Outcome h c flavor u o) (hw : Reflects w h) :
    o = w.outcome c flavor u := by
  cases ho with
  | notStarted hnone =>
    rw [World.outcome, World.pending_of_slot_none flavor (hw.slot_eq_none hnone)]
    rfl
  | nothingCaptured hid hnone =>
    obtain ⟨hslot, howns⟩ := hw.pending.1 hid
    have hreceived := Option.eq_none_iff_forall_ne_some.2 fun x hx => hnone x (hw.calls.2 hx)
    rw [World.outcome, World.pending_of_slot flavor hslot howns, hreceived]
    rfl
  | refused hid hx hk =>
    rw [World.outcome, hw.pending_eq hid hx, Method.capture_eq_error_iff.2 ⟨_, _, hk, rfl⟩]
    rfl
  | typeMismatch hid hx hargs hd =>
    rw [World.outcome, hw.pending_eq_of_captured hid hx hargs]
    simp [Except.bind, Invocation.suited, Method.member, hd]
  | returnTypeMismatch hid hx hargs hu =>
    rw [World.outcome, hw.pending_eq_of_captured hid hx hargs]
    simp [Except.bind, Invocation.suited, Method.member, hu]
  | built hid hx hargs hu =>
    rw [World.outcome, hw.pending_eq_of_captured hid hx hargs]
    simp [Except.bind, Invocation.suited, Method.member, hu]

theorem Outcome.deeds_finish {s : Session} (ho : Outcome h c flavor u o) (hs : Reflects s.world h)
    (inner : ValueMatcher u) (panicking : Bool) (keeping : Keeping) :
    s.deeds (.finish c flavor u inner panicking keeping) = if o.isOk then [.finished] else [] := by
  simp only [Session.deeds, World.fst_finish, ← ho.eq_outcome hs]
  cases o <;> rfl

theorem exists_outcome (hw : Reflects w h) (hcalls : w.Respects .typed) (c : Capability)
    (flavor : Flavor) (u : Ty) : ∃ o, Outcome h c flavor u o := by
  by_cases hpending : ∃ d id, Pending h d id
  · obtain ⟨d, id, hid⟩ := hpending
    cases hreceived : w.received id with
    | none =>
      refine ⟨_, .nothingCaptured hid fun x hx => ?_⟩
      cases hreceived.symm.trans (hw.calls.1 hx)
    | some x =>
      obtain ⟨m, args, rfl⟩ := hcalls id d x (hw.pending.1 hid).2 hreceived
      have hx := hw.calls.2 hreceived
      cases hcapture : m.capture args with
      | error e =>
        obtain ⟨k, refusal, hk, -⟩ := Method.exists_firstRefused_of_capture hcapture
        exact ⟨_, .refused hid hx hk⟩
      | ok i =>
        have hargs := (Method.capture_eq_ok_iff.1 hcapture).2
        by_cases hd : d = c
        · subst hd
          by_cases hu : m.returns = u
          · exact ⟨_, .built hid hx hargs hu⟩
          · exact ⟨_, .returnTypeMismatch hid hx hargs hu⟩
        · exact ⟨_, .typeMismatch hid hx hargs hd⟩
  · exact ⟨_, .notStarted fun d id hid => hpending ⟨d, id, hid⟩⟩

end History

end Facet
