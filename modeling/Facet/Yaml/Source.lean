import Facet.Yaml.Fault

/-!
A YAML text as it is read: the characters still to come and the place they start at. Line ends are made
alike before, so that a line ends in a line feed or in one of the two Unicode separators.
-/

namespace Facet.Yaml

def isAllowed (c : Char) : Bool :=
  let n := c.toNat
  n = 0x09 || n = 0x0a || n = 0x0d || (0x20 ≤ n && n ≤ 0x7e) || n = 0x85 || (0xa0 ≤ n && n ≤ 0xfffd) ||
    0x10000 ≤ n

def forbidden? (offset : Nat) : List Char → Option Nat
  | [] => none
  | c :: cs => if isAllowed c then forbidden? (offset + c.utf8Size) cs else some offset

def unifyBreaks : List Char → List Char
  | '\r' :: '\n' :: cs => '\n' :: unifyBreaks cs
  | '\r' :: cs => '\n' :: unifyBreaks cs
  | '\u0085' :: cs => '\n' :: unifyBreaks cs
  | c :: cs => c :: unifyBreaks cs
  | [] => []

def isBreak (c : Char) : Bool := c = '\n' || c = '\u2028' || c = '\u2029'

def isBlank (c : Char) : Bool := c = ' ' || c = '\t'

def isAlpha (c : Char) : Bool := c.isAlphanum || c = '_' || c = '-'

def atBreak : List Char → Bool
  | [] => true
  | c :: _ => isBreak c

def atBlank : List Char → Bool
  | [] => true
  | c :: _ => isBlank c || isBreak c

def atIndicator : List Char → Bool
  | '-' :: '-' :: '-' :: cs => atBlank cs
  | '.' :: '.' :: '.' :: cs => atBlank cs
  | _ => false

def Mark.after (m : Mark) (c : Char) : Mark := if isBreak c then ⟨m.line + 1, 0⟩ else ⟨m.line, m.column + 1⟩

structure Source where
  mark : Mark
  rest : List Char

namespace Source

def ofText (s : String) : Source := ⟨.origin, unifyBreaks s.toList⟩

def skip (s : Source) : Source :=
  match s.rest with
  | [] => s
  | c :: cs => ⟨s.mark.after c, cs⟩

def skipMany : Nat → Source → Source
  | 0, s => s
  | n + 1, s => skipMany n s.skip

def span (p : Char → Bool) (m : Mark) : List Char → List Char × Source
  | [] => ([], ⟨m, []⟩)
  | c :: cs =>
    if p c then
      let (taken, s) := span p (m.after c) cs
      (c :: taken, s)
    else ([], ⟨m, c :: cs⟩)

def take (s : Source) (p : Char → Bool) : List Char × Source := span p s.mark s.rest

def dropWhile (s : Source) (p : Char → Bool) : Source := (s.take p).2

def skipBlanks (s : Source) : Source := s.dropWhile isBlank

def skipComment (s : Source) : Source :=
  if s.rest.head? = some '#' then s.dropWhile fun c => !isBreak c else s

end Source

end Facet.Yaml
