import Facet.Proofs.Session.Deed

namespace Facet

variable {c : Capability} {u : Ty}

def Invocation.suited (i : Invocation) (c : Capability) (u : Ty) : Except CaptureError Invocation :=
  if i.member.declaring ≠ c then .error (.typeMismatch i.member c)
  else if i.member.returns ≠ u then .error (.returnTypeMismatch i.member u)
  else .ok i

def World.outcome (w : World) (c : Capability) (flavor : Flavor) (u : Ty) :
    Except CaptureError Invocation :=
  (w.pending flavor).bind (·.suited c u)

def Reply.ofOutcome (c : Capability) (flavor : Flavor) (inner : ValueMatcher u) (panicking : Bool)
    (diagnostics : Diagnostics) : Except CaptureError Invocation → Reply
  | .error e => if panicking then .panic (.message e.message) else .captureError e
  | .ok i => .matcher (⟨u, flavor, i, diagnostics, inner⟩ : Replaying c)

theorem Replaying.new_eq (c : Capability) (flavor : Flavor) (i : Invocation) (inner : ValueMatcher u)
    (diagnostics : Diagnostics) :
    new c flavor i u inner diagnostics =
      (i.suited c u).map fun i => ⟨u, flavor, i, diagnostics, inner⟩ := by
  simp only [new, Invocation.suited]
  split
  · rfl
  · split <;> rfl

namespace World

variable (w : World) (c : Capability) (flavor : Flavor) (inner : ValueMatcher u)

theorem bind_build :
    ((w.pending flavor).bind fun i => w.build c flavor i u inner) =
      (w.outcome c flavor u).map fun i => ⟨u, flavor, i, w.activeConfig.diagnostics, inner⟩ := by
  simp only [outcome, build, Replaying.new_eq]
  cases w.pending flavor <;> rfl

theorem fst_finish :
    (w.finish c flavor u inner).1 =
      (w.outcome c flavor u).map fun i => ⟨u, flavor, i, w.activeConfig.diagnostics, inner⟩ := by
  rw [finish_eq, bind_build]
  cases w.outcome c flavor u <;> rfl

theorem snd_finish :
    (w.finish c flavor u inner).2 = match w.outcome c flavor u with
      | .error _ => w
      | .ok _ => if w.activeConfig.resetSlotOnFinish then w.clearSlot else w := by
  rw [finish_eq, bind_build]
  cases w.outcome c flavor u <;> rfl

/-- What a finisher that builds a matcher does to the world: it empties the slot, if it is told to. -/
structure Finished (w v : World) : Prop where
  recorders : v.recorders = w.recorders
  config : v.config = w.config
  isSet : w.isSet
  slot : v.slot = if w.activeConfig.resetSlotOnFinish then none else w.slot

theorem recorders_finish : (w.finish c flavor u inner).2.recorders = w.recorders := by
  rw [snd_finish]
  split
  · rfl
  · split <;> simp

theorem finished_of_outcome {i : Invocation} (h : w.outcome c flavor u = .ok i) :
    w.Finished (w.finish c flavor u inner).2 := by
  have hset : w.isSet := by
    cases hpending : w.pending flavor with
    | error e => simp [outcome, hpending, Except.bind] at h
    | ok j =>
      obtain ⟨id, hslot⟩ := exists_slot_of_pending hpending
      simp [World.isSet, hslot]
  rw [snd_finish, h]
  cases hreset : w.activeConfig.resetSlotOnFinish with
  | false => exact ⟨rfl, rfl, hset, by simp [hreset]⟩
  | true => exact ⟨by simp, by simp, hset, by simp [hreset]⟩

end World

namespace Session

theorem conclude_ok (s : Session) (panicking : Bool) (keeping : Keeping) (r : Replaying c) :
    s.conclude panicking keeping (.ok r) =
      (.matcher (r.withDiagnostics (keeping.diagnostics.getD r.diagnostics)),
        s.keepMatcher c keeping.name
          (.criterion (r.withDiagnostics (keeping.diagnostics.getD r.diagnostics)))) := by
  obtain ⟨diagnostics, name⟩ := keeping
  cases diagnostics <;> rfl

theorem world_conclude (s : Session) (panicking : Bool) (keeping : Keeping)
    (built : Except CaptureError (Replaying c)) :
    (s.conclude panicking keeping built).2.world = s.world := by
  obtain ⟨_, h⟩ := s.exists_conclude_eq panicking keeping built
  rw [h]

theorem standIns_conclude (s : Session) (panicking : Bool) (keeping : Keeping)
    (built : Except CaptureError (Replaying c)) :
    (s.conclude panicking keeping built).2.standIns = s.standIns := by
  obtain ⟨_, h⟩ := s.exists_conclude_eq panicking keeping built
  rw [h]

theorem matchers_conclude_congr {s t : Session} (h : s.matchers = t.matchers) (panicking : Bool)
    (keeping : Keeping) (built : Except CaptureError (Replaying c)) :
    (s.conclude panicking keeping built).2.matchers =
      (t.conclude panicking keeping built).2.matchers := by
  cases built with
  | error e => exact h
  | ok r => simp only [conclude_ok, keepMatcher, h]

variable (s : Session) (c : Capability) (flavor : Flavor) (inner : ValueMatcher u) (panicking : Bool)
  (keeping : Keeping)

theorem run_finish_eq :
    s.run (.finish c flavor u inner panicking keeping) =
      { s with world := (s.world.finish c flavor u inner).2 }.conclude panicking keeping
        ((s.world.outcome c flavor u).map fun i =>
          (⟨u, flavor, i, s.world.activeConfig.diagnostics, inner⟩ : Replaying c)) := by
  rw [← World.fst_finish]
  rfl

theorem fst_run_finish :
    (s.run (.finish c flavor u inner panicking keeping)).1 =
      .ofOutcome c flavor inner panicking (keeping.diagnostics.getD s.world.activeConfig.diagnostics)
        (s.world.outcome c flavor u) := by
  rw [run_finish_eq]
  cases s.world.outcome c flavor u with
  | error e => rfl
  | ok i =>
    simp only [Except.map, conclude_ok]
    rfl

theorem world_run_finish :
    (s.run (.finish c flavor u inner panicking keeping)).2.world = (s.world.finish c flavor u inner).2 := by
  rw [run_finish_eq, world_conclude]

theorem run_finish_of_error {e : CaptureError} (h : s.world.outcome c flavor u = .error e) :
    s.run (.finish c flavor u inner panicking keeping) =
      (if panicking then .panic (.message e.message) else .captureError e, s) := by
  rw [run_finish_eq, World.snd_finish, h]
  rfl

theorem fst_run_finish_of_ok {i : Invocation} (h : s.world.outcome c flavor u = .ok i) :
    (s.run (.finish c flavor u inner panicking keeping)).1 =
      .matcher (⟨u, flavor, i, keeping.diagnostics.getD s.world.activeConfig.diagnostics, inner⟩ :
        Replaying c) := by
  rw [fst_run_finish, h]
  rfl

theorem snd_run_finish_panicking :
    (s.run (.finish c flavor u inner true keeping)).2 =
      (s.run (.finish c flavor u inner false keeping)).2 := by
  rw [run_finish_eq, run_finish_eq]
  cases s.world.outcome c flavor u <;> rfl

end Session

end Facet
