import Facet.Pattern.Positions

namespace Facet.Pattern

inductive Regex
  | empty
  | char : (Char → Bool) → Regex
  | between : (Option Char → Option Char → Bool) → Regex
  | seq : Regex → Regex → Regex
  | alt : Regex → Regex → Regex
  | times : Regex → (least : Nat) → (most : Option Nat) → Regex

namespace Regex

/-- More repetitions than there are positions lead nowhere new: one of them consumes nothing and may be
left out or made once more. -/
def image (cs : List Char) : Regex → Positions → Positions
  | .empty, s => s
  | .char p, s => Positions.advance p cs s
  | .between p, s => s &&& Positions.between p none cs
  | .seq a b, s => b.image cs (a.image cs s)
  | .alt a b, s => a.image cs s ||| b.image cs s
  | .times r least most, s =>
    let bound := cs.length + 1
    let further := match most with
      | none => bound
      | some n => min (n - least) bound
    Positions.upTo (r.image cs) further (Positions.steps (r.image cs) (min least bound) s)

def occursIn (r : Regex) (s : String) : Bool :=
  r.image s.toList (Positions.all s.toList) != 0

end Regex

end Facet.Pattern
