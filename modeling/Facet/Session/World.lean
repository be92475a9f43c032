import Facet.Matcher.Replaying
import Facet.Session.Event

/-!
The state that captures share: the recorders of all stand-ins ever made, the slot that refers to one of
them, the active configuration and the log. A recorder is known by its place in the list and is never
removed, so a stand-in that is gone can still be read through the slot.
-/

namespace Facet

structure Recorder where
  owner : Capability
  captured : Option (Except CaptureError Invocation)

namespace Recorder

def fresh (c : Capability) : Recorder := ⟨c, none⟩

def invocation (r : Recorder) : Except CaptureError Invocation :=
  r.captured.getD (.error (.nothingCaptured r.owner))

end Recorder

structure World where
  recorders : List Recorder
  slot : Option Nat
  config : Option Config
  log : List Event

namespace World

def initial : World := ⟨[], none, none, []⟩

def isSet (w : World) : Bool := w.slot.isSome

def activeConfig (w : World) : Config := w.config.getD .default

def emit (w : World) (e : Event) : World := { w with log := w.log ++ [e] }

def create (w : World) (c : Capability) : Nat × World :=
  (w.recorders.length, { w with recorders := w.recorders ++ [.fresh c] })

def start (w : World) (c : Capability) : Nat × World :=
  let (id, w) := w.create c
  (id, { w.emit (.slotSet c) with slot := some id })

def record (w : World) (id : Nat) (captured : Except CaptureError Invocation) : World :=
  match w.recorders[id]? with
  | none => w
  | some r =>
    { w.emit (.ofCapture r.owner captured) with
      recorders := w.recorders.set id { r with captured := some captured } }

/-- Carries out the notes of a traced computation, in their order; `id` is the recorder of the stand-in
that it ran on, if any. -/
def settle (id : Option Nat) : List Note → World → World
  | [], w => w
  | .captured captured :: rest, w =>
    settle id rest (match id with
      | none => w
      | some id => w.record id captured)
  | .replayFailed i e :: rest, w => settle id rest (w.emit (.replayFailed i e))

def pending (w : World) (flavor : Flavor) : Except CaptureError Invocation :=
  match w.slot.bind (w.recorders[·]?) with
  | none => .error (.notStarted flavor)
  | some r => r.invocation

def clearSlot (w : World) : World :=
  match w.slot with
  | none => w
  | some _ => { w.emit .slotCleared with slot := none }

def build (w : World) (c : Capability) (flavor : Flavor) (invocation : Invocation) (u : Ty)
    (inner : ValueMatcher u) : Except CaptureError (Replaying c) :=
  Replaying.new c flavor invocation u inner w.activeConfig.diagnostics

def take (w : World) (flavor : Flavor) : Except CaptureError Nat × World :=
  (match w.slot with
    | none => .error (.notStarted flavor)
    | some id => .ok id, w.clearSlot)

/-- Builds a matcher from the pending invocation. Only success may empty the slot. -/
def finish (w : World) (c : Capability) (flavor : Flavor) (u : Ty) (inner : ValueMatcher u) :
    Except CaptureError (Replaying c) × World :=
  match (w.pending flavor).bind fun i => w.build c flavor i u inner with
  | .error e => (.error e, w)
  | .ok m =>
    if w.activeConfig.resetSlotOnFinish then
      let (taken, w) := w.take flavor
      (taken.map fun _ => m, w)
    else (.ok m, w)

def reset (w : World) : World := { w.emit .slotReset with slot := none }

def activate (w : World) (c : Config) : World := { w.emit (.configActivated c) with config := some c }

def deactivate (w : World) : World := { w with config := none }

end World

end Facet
