import Facet.Config.Basic
import Facet.Matcher.Value

namespace Facet

structure Replaying (c : Capability) where
  returns : Ty
  flavor : Flavor
  invocation : Invocation
  diagnostics : Diagnostics
  inner : ValueMatcher returns

abbrev InstanceMatcher (c : Capability) : Type := Matcher (Replaying c)

namespace Replaying

variable {c : Capability}

def new (c : Capability) (flavor : Flavor) (invocation : Invocation) (u : Ty) (inner : ValueMatcher u)
    (diagnostics : Diagnostics) : Except CaptureError (Replaying c) :=
  let member := invocation.member
  if member.declaring ≠ c then .error (.typeMismatch member c)
  else if member.returns ≠ u then .error (.returnTypeMismatch member u)
  else .ok ⟨u, flavor, invocation, diagnostics, inner⟩

def withDiagnostics (r : Replaying c) (diagnostics : Diagnostics) : Replaying c :=
  { r with diagnostics }

def describe (r : Replaying c) (d : Description) : Description :=
  r.inner.describe
    ((r.invocation.describe ((d.appendText r.flavor.verb).appendText " ")).appendText " ")

def value (r : Replaying c) (target : Target c) : Traced (Except ReplayError r.returns.Val) := do
  let replayed ← r.invocation.replay r.returns target
  match replayed with
  | .error e => do
    Traced.note (.replayFailed r.invocation e)
    return .error e
  | .ok a => return .ok a

def test (r : Replaying c) (target : Target c) : Traced Bool := do
  match ← r.value target with
  | .error _ => return false
  | .ok a => r.inner.test a

def threw (diagnostics : Diagnostics) (e : ReplayError) : String :=
  match diagnostics with
  | .silent => "threw"
  | .detailed => "threw " ++ Ty.bracket e.message

def explain (r : Replaying c) (target : Target c) (d : Description) : Traced Description := do
  match ← r.value target with
  | .error e => return d.appendText (threw r.diagnostics e)
  | .ok a =>
    if ← r.inner.test a then return d
    else
      match r.flavor with
      | .hasValue => r.inner.explain a d
      | .such => return (d.appendText "was ").appendValue r.returns a

def debug (r : Replaying c) : String :=
  "ReplayingMatcher \x7b flavor: " ++ r.flavor.debug ++ ", invocation: " ++ r.invocation.debug ++
    ", diagnostics: " ++ r.diagnostics.debug ++ ", .. \x7d"

end Replaying

instance {c : Capability} : Criterion (Replaying c) (Target c) where
  describe := Replaying.describe
  test := Replaying.test
  explain := Replaying.explain

end Facet
