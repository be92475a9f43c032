import Facet.Proofs.Invocation.Decision
import Facet.Proofs.Session.Calls

namespace Facet

namespace World

variable {w : World} {id : Nat} {x : Except CaptureError Invocation}

theorem received_record_eq (w : World) (id : Nat) (x : Except CaptureError Invocation) (other : Nat) :
    (w.record id x).received other =
      if other = id ∧ id < w.recorders.length then some x else w.received other :=
  received_after w (.called id x) other

theorem received_record (hid : id < w.recorders.length) : (w.record id x).received id = some x :=
  (w.received_record_eq id x id).trans (if_pos ⟨rfl, hid⟩)

end World

namespace Session

variable {s : Session} {c : Capability} {i : Invocation} {u : Ty} {key name : String} {id : Nat}

theorem run_replay_standIn (hkey : s.invocations.find? key = some i)
    (hname : (s.standIns c).find? name = some id) {o : Except ReplayError u.Val} {notes : List Note}
    (h : i.replay u (.standIn : Target c) = ⟨.ok o, notes⟩) :
    s.run (.replay (c := c) u key (.standIn name)) =
      (match o with
        | .error e => .replayError e
        | .ok a => .rendering (u.render a), { s with world := s.world.settle (some id) notes }) := by
  simp only [run, hkey, runOn, target?, hname, Option.map_some, h]
  cases o <;> rfl

end Session

end Facet
