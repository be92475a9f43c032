/-!
Sets of positions in a text, as the bits of a number: bit `i` stands for the position before the `i`-th
character, and the last one for the position behind all of them.
-/

namespace Facet.Pattern

abbrev Positions := Nat

namespace Positions

def before (p : Char → Bool) : List Char → Positions
  | [] => 0
  | c :: cs => (p c).toNat + 2 * before p cs

/-- The positions whose neighbours, the character before and the one after, `p` accepts; `last` is the
character before the text. -/
def between (p : Option Char → Option Char → Bool) (last : Option Char) : List Char → Positions
  | [] => (p last none).toNat
  | c :: cs => (p last (some c)).toNat + 2 * between p (some c) cs

def all (cs : List Char) : Positions := between (fun _ _ => true) none cs

def start : Positions := 1

def atEnd (s : Positions) (cs : List Char) : Bool := s.testBit cs.length

def advance (p : Char → Bool) (cs : List Char) (s : Positions) : Positions :=
  (s &&& before p cs) <<< 1

def steps (f : Positions → Positions) : Nat → Positions → Positions
  | 0, s => s
  | n + 1, s => if s = 0 then 0 else steps f n (f s)

def closure (f : Positions → Positions) : Nat → (seen fresh : Positions) → Positions
  | 0, seen, _ => seen
  | n + 1, seen, fresh =>
    let reached := f fresh
    let new := reached ^^^ (reached &&& seen)
    if new = 0 then seen else closure f n (seen ||| new) new

def upTo (f : Positions → Positions) (n : Nat) (s : Positions) : Positions := closure f n s s

end Positions

end Facet.Pattern
