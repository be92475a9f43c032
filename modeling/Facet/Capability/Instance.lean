import Facet.Capability.Method
import Facet.Value.Debug

namespace Facet

open Number

inductive Panic
  | message : String → Panic
  | other
  deriving DecidableEq

def Panic.text (unspoken : String) : Panic → String
  | .message s => s
  | .other => unspoken

def Instance (c : Capability) : Type :=
  (m : Method c) → Args m.params → Except Panic m.returns.Val

namespace Instance

def person (name : String) (age : Word .u32) : Instance .person
  | .getName, () => .ok ⟨name⟩
  | .getNameWithArgument, (a, ()) => .ok ⟨name ++ ":" ++ a⟩
  | .getNameWithArguments, (a, b, ()) => .ok ⟨name ++ ":" ++ a ++ ":" ++ b⟩
  | .getAge, () => .ok age
  | .getNickname, (locale, formal, rank, ()) =>
    .ok (locale ++ "/" ++ Ty.bool.debug formal ++ "/" ++ toString rank.val)

def panicking {c : Capability} (p : Panic) : Instance c := fun _ _ => .error p

def catalogEcho : Instance .catalog
  | .label, (.en, ()) => .ok "en"
  | .label, (.fr, ()) => .ok "fr"
  | .initial, (c, ()) => .ok c
  | .maybe, (none, ()) => .ok "none"
  | .maybe, (some n, ()) => .ok (toString n.val)
  | .scaled, (x, ()) => .ok x
  | .flagged, (enabled, rank, ()) => .ok (Ty.bool.debug enabled ++ ":" ++ toString rank.val)

def kitEcho : Instance .kit
  | .small, (a, ()) => .ok a
  | .signed, (a, ()) =>
    if a.val = -13 then .error (.message "unlucky: -13") else .ok a
  | .unsigned, (a, ()) => .ok a
  | .wide, (a, ()) => .ok a
  | .ratio, (a, ()) => .ok a
  | .maybeReal, (a, ()) => .ok a
  | .nested, (a, ()) => .ok a
  | .tags, (a, ()) => .ok a
  | .reals, (a, ()) => .ok a
  | .maybes, (a, ()) => .ok a
  | .table, (a, ()) => .ok a
  | .keyed, (a, ()) => .ok (.clamp .i64 a.entries.length)
  | .pair, (a, ()) => .ok a
  | .point, (a, ()) => .ok a
  | .shape, (a, ()) => .ok a
  | .nothing, (a, ()) => .ok a
  | .trunc, (a, ()) => .ok a.val
  | .drift, (a, ()) => .ok a.val
  | .veiled, (a, ()) => .ok a.val
  | .masked, (a, ()) => .ok a.secret
  | .mixed, (x, s, y, zs, ()) =>
    .ok ("|".intercalate
      [(Ty.real .double).debug x, s, (Ty.option (.real .double)).debug y,
        (Ty.list (.real .double)).debug zs])
  | .path, (a, ()) => .ok a

def echo? : (c : Capability) → Option (Instance c)
  | .person => none
  | .catalog => some catalogEcho
  | .kit => some kitEcho
  | .empty => some nofun

end Instance

end Facet
