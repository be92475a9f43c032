import Facet.Proofs.Matcher.Notes
import Facet.Proofs.Session.Laws

/-!
Deeds: what steps do to the world. A step comes to a list of deeds, and the world after it is what they,
one after the other, make of it.
-/

namespace Facet

inductive Deed
  | started : Capability → Deed
  | created : Capability → Deed
  | called : (id : Nat) → Except CaptureError Invocation → Deed
  | replayFailed : Invocation → ReplayError → Deed
  | finished
  | emptied
  | configured : Option Config → Deed

def Note.deed? (id : Option Nat) : Note → Option Deed
  | .captured x => id.map (.called · x)
  | .replayFailed i e => some (.replayFailed i e)

namespace World

def after (w : World) : Deed → World
  | .started c => (w.start c).2
  | .created c => (w.create c).2
  | .called id x => w.record id x
  | .replayFailed i e => w.emit (.replayFailed i e)
  | .finished => if w.activeConfig.resetSlotOnFinish then w.clearSlot else w
  | .emptied => w.reset
  | .configured none => w.deactivate
  | .configured (some c) => w.activate c

theorem settle_eq (w : World) (id : Option Nat) (notes : List Note) :
    w.settle id notes = (notes.filterMap (Note.deed? id)).foldl after w := by
  induction notes generalizing w with
  | nil => rfl
  | cons note notes ih =>
    cases note with
    | captured x => cases id <;> exact ih _
    | replayFailed i e => exact ih _

end World

namespace Step

def standInsAfter (names : (c : Capability) → Names Nat) (next : Nat) :
    Step → (c : Capability) → Names Nat
  | .start c name | .create c name => Session.update names c (·.keep name next)
  | .drop c name => Session.update names c (·.forget name)
  | _ => names

def guardsAfter (guards : Nat) : Step → Nat
  | .guard => guards + 1
  | .unguard => guards - 1
  | _ => guards

end Step

namespace Session

variable {c : Capability}

def deedsOn {α : Type} (s : Session) (subject : Subject c) (run : Target c → Traced α) : List Deed :=
  match s.target? subject with
  | none => []
  | some (target, id) => (run target).notes.filterMap (Note.deed? id)

def deeds (s : Session) : Step → List Deed
  | .start c _ => [.started c]
  | .create c _ => [.created c]
  | .call (c := c) name m args => s.deedsOn (c := c) (.standIn name) (m.call args)
  | .direct subject m args => s.deedsOn subject (m.call args)
  | .intercept c name member arguments =>
    match (s.standIns c).find? name with
    | none => []
    | some id => [.called id (Facet.intercept member arguments)]
  | .finish c flavor u inner _ _ =>
    match (s.world.finish c flavor u inner).1 with
    | .error _ => []
    | .ok _ => [.finished]
  | .replay u name subject =>
    match s.invocations.find? name with
    | none => []
    | some i => s.deedsOn subject (i.replay u)
  | .evaluate (c := c) expression subject _ =>
    match expression.resolve (s.matchers c).find? with
    | .error _ => []
    | .ok m => s.deedsOn subject m.examine
  | .setConfig diagnostics reset => [.configured (some (Config.default.withOverrides diagnostics reset))]
  | .resetConfig => [.configured none]
  | .reset | .guard => [.emptied]
  | .unguard => if s.guards = 0 then [] else [.emptied]
  | .drop .. | .captured .. | .make .. | .same .. | .build .. | .active | .isSet => []

theorem deeds_call {s : Session} {name : String} {id : Nat}
    (h : (s.standIns c).find? name = some id) (m : Method c) (args : Args m.params) :
    s.deeds (.call name m args) = [.called id (m.capture args)] := by
  simp [deeds, deedsOn, target?, h, Method.call, Note.deed?]

theorem runOn_eq {α : Type} (s : Session) (subject : Subject c) (run : Target c → Traced α)
    (reply : α → Reply) :
    (s.runOn subject run reply).2 =
      { s with world := (s.deedsOn subject run).foldl World.after s.world } := by
  cases ht : s.target? subject with
  | none => simp [runOn, deedsOn, ht]
  | some t => simp [runOn, deedsOn, ht, World.settle_eq]

theorem exists_conclude_eq (s : Session) (panicking : Bool) (keeping : Keeping)
    (built : Except CaptureError (Replaying c)) :
    ∃ matchers, (s.conclude panicking keeping built).2 = { s with matchers } := by
  cases built <;> exact ⟨_, rfl⟩

theorem world_finish (s : Session) (c : Capability) (flavor : Flavor) (u : Ty) (inner : ValueMatcher u)
    (panicking : Bool) (keeping : Keeping) :
    (s.world.finish c flavor u inner).2 =
      (s.deeds (.finish c flavor u inner panicking keeping)).foldl World.after s.world := by
  simp only [deeds, World.finish_eq]
  split <;> rfl

/-- A step changes the world by its deeds only; the names of stand-ins and the guards it changes by itself. -/
theorem exists_run_eq (s : Session) (step : Step) :
    ∃ matchers invocations, (s.run step).2 =
      ⟨(s.deeds step).foldl World.after s.world,
        step.standInsAfter s.standIns s.world.recorders.length, matchers, invocations,
        step.guardsAfter s.guards⟩ := by
  cases step with
  | call | direct => exact ⟨_, _, runOn_eq ..⟩
  | captured c name keepAs =>
    simp only [run]
    split
    · exact ⟨_, _, rfl⟩
    · split
      · exact ⟨_, _, rfl⟩
      · cases keepAs <;> exact ⟨_, _, rfl⟩
  | intercept c name member arguments =>
    simp only [run, deeds]
    cases (s.standIns c).find? name <;> exact ⟨_, _, rfl⟩
  | make member arguments keepAs =>
    simp only [run]
    cases Invocation.new member arguments <;> exact ⟨_, _, rfl⟩
  | same first second =>
    simp only [run]
    split <;> exact ⟨_, _, rfl⟩
  | finish c flavor u inner panicking keeping =>
    obtain ⟨matchers, h⟩ := exists_conclude_eq
      { s with world := (s.world.finish c flavor u inner).2 } panicking keeping
      (s.world.finish c flavor u inner).1
    rw [← world_finish s c flavor u inner panicking keeping]
    exact ⟨matchers, _, h⟩
  | build c flavor u inner name keeping =>
    simp only [run]
    cases s.invocations.find? name with
    | none => exact ⟨_, _, rfl⟩
    | some i =>
      obtain ⟨matchers, h⟩ := s.exists_conclude_eq false keeping (s.world.build c flavor i u inner)
      exact ⟨matchers, _, h⟩
  | replay u name subject =>
    simp only [run, deeds]
    cases s.invocations.find? name with
    | none => exact ⟨_, _, rfl⟩
    | some i => exact ⟨_, _, runOn_eq ..⟩
  | @evaluate c expression subject keepAs =>
    simp only [run, deeds]
    cases expression.resolve (s.matchers c).find? with
    | error name => exact ⟨_, _, rfl⟩
    | ok m =>
      simp only [runOn_eq]
      cases keepAs <;> exact ⟨_, _, rfl⟩
  | unguard =>
    obtain ⟨_, _, _, _, guards⟩ := s
    cases guards <;> exact ⟨_, _, rfl⟩
  | start | create | drop | setConfig | resetConfig | active | reset | guard | isSet =>
    exact ⟨_, _, rfl⟩

theorem world_run (s : Session) (step : Step) :
    (s.run step).2.world = (s.deeds step).foldl World.after s.world := by
  obtain ⟨_, _, h⟩ := s.exists_run_eq step
  rw [h]

theorem standIns_run (s : Session) (step : Step) :
    (s.run step).2.standIns = step.standInsAfter s.standIns s.world.recorders.length := by
  obtain ⟨_, _, h⟩ := s.exists_run_eq step
  rw [h]

theorem guards_run (s : Session) (step : Step) :
    (s.run step).2.guards = step.guardsAfter s.guards := by
  obtain ⟨_, _, h⟩ := s.exists_run_eq step
  rw [h]

end Session

end Facet
