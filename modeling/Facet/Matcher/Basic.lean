import Facet.Invocation.Replay

/-!
Matchers as formulas over criteria. A kind of criterion says how one of them describes itself, tests a
subject and explains why a subject failed; negation, conjunction and forwarding are the same over every
kind.
-/

namespace Facet

inductive Pointer
  | box | reference | shared
  deriving DecidableEq

/-- A test double: fixed texts and a fixed verdict, or a panic in its place. -/
structure Stub where
  verdict : Bool
  description : String
  mismatch : String
  panic : Option String

inductive Matcher (L : Type)
  | criterion : L → Matcher L
  | anything : (description : String) → Matcher L
  | stub : Stub → Matcher L
  | not : Matcher L → Matcher L
  | allOf : List (Matcher L) → Matcher L
  | forward : Pointer → Matcher L → Matcher L

class Criterion (L : Type) (X : outParam Type) where
  describe : L → Description → Description
  test : L → X → Traced Bool
  explain : L → X → Description → Traced Description

def Stub.test (s : Stub) : Traced Bool :=
  match s.panic with
  | some message => .panic (.message message)
  | none => pure s.verdict

namespace Matcher

variable {L X : Type} [Criterion L X]

mutual

def describe : Matcher L → Description → Description
  | .criterion l, d => Criterion.describe l d
  | .anything description, d => d.appendText description
  | .stub s, d => d.appendText s.description
  | .not m, d => m.describe (d.appendText "not ")
  | .allOf ms, d => (describeAll ms (d.appendText "(")).appendText ")"
  | .forward _ m, d => m.describe d

def describeAll : List (Matcher L) → Description → Description
  | [], d => d
  | m :: ms, d => describeRest ms (m.describe d)

def describeRest : List (Matcher L) → Description → Description
  | [], d => d
  | m :: ms, d => describeRest ms (m.describe (d.appendText " and "))

end

mutual

def test : Matcher L → X → Traced Bool
  | .criterion l, x => Criterion.test l x
  | .anything _, _ => pure true
  | .stub s, _ => s.test
  | .not m, x => do return !(← m.test x)
  | .allOf ms, x => testAll ms x
  | .forward _ m, x => m.test x

def testAll : List (Matcher L) → X → Traced Bool
  | [], _ => pure true
  | m :: ms, x => do if ← m.test x then testAll ms x else return false

end

mutual

/-- Appends why the subject fails. A conjunction looks for its first failing member again. -/
def explain : Matcher L → X → Description → Traced Description
  | .criterion l, x, d => Criterion.explain l x d
  | .anything _, _, d => pure d
  | .stub s, _, d => pure (d.appendText s.mismatch)
  | .not m, _, d => pure (m.describe (d.appendText "matched "))
  | .allOf ms, x, d => explainAll ms x d
  | .forward _ m, x, d => m.explain x d

def explainAll : List (Matcher L) → X → Description → Traced Description
  | [], _, d => pure d
  | m :: ms, x, d => do
    if ← m.test x then explainAll ms x d
    else m.explain x ((m.describe d).appendText " ")

end

structure Verdict where
  passed : Bool
  description : String
  reason : Option String
  deriving DecidableEq

def evaluate (m : Matcher L) (x : X) : Traced Verdict := do
  let description := (m.describe .empty).text
  if ← m.test x then return ⟨true, description, none⟩
  else
    let mismatch ← m.explain x .empty
    return ⟨false, description, some mismatch.text⟩

def Verdict.complaint (v : Verdict) : String :=
  "assertion failed: expected " ++ v.description ++ "\n\n  but: " ++ v.reason.getD "unknown reason" ++
    "\n"

def assertThat (m : Matcher L) (x : X) : Traced Unit := do
  let v ← m.evaluate x
  if v.passed then return () else .panic (.message v.complaint)

end Matcher

end Facet
