import Facet.Config.Basic
import Facet.Invocation.Replay

namespace Facet

inductive Event
  | slotSet : Capability → Event
  | slotCleared
  | slotReset
  | captured : Capability → Invocation → Event
  | captureFailed : Capability → CaptureError → Event
  | replayFailed : Invocation → ReplayError → Event
  | configActivated : Config → Event

inductive Level
  | trace | debug
  deriving DecidableEq

namespace Level

def name : Level → String
  | .trace => "TRACE"
  | .debug => "DEBUG"

end Level

namespace Event

def level : Event → Level
  | .slotSet _ | .slotCleared | .slotReset => .trace
  | _ => .debug

def message : Event → String
  | .slotSet _ => "capture slot set"
  | .slotCleared => "capture slot cleared"
  | .slotReset => "capture slot reset"
  | .captured .. => "captured invocation"
  | .captureFailed .. => "failed to capture invocation"
  | .replayFailed .. => "replay failed"
  | .configActivated _ => "activating config"

def fields (e : Event) : List (String × String) :=
  match e with
  | .slotSet c => [("message", e.message), ("type_name", c.name)]
  | .slotCleared | .slotReset => [("message", e.message)]
  | .captured c i => [("invocation", i.text), ("message", e.message), ("type_name", c.name)]
  | .captureFailed c error =>
    [("error", error.message), ("message", e.message), ("type_name", c.name)]
  | .replayFailed i error =>
    [("error", error.message), ("invocation", i.text), ("message", e.message)]
  | .configActivated c => [("config", c.debug), ("message", e.message)]

end Event

def Event.ofCapture (c : Capability) : Except CaptureError Invocation → Event
  | .ok i => .captured c i
  | .error e => .captureFailed c e

end Facet
