import Facet.Pattern.Regex.Basic
import Facet.Pattern.Regex.Bracket

/-!
Reading a regular expression. What is no expression is `none`: unbalanced or unknown forms, references
and assertions that look around, operations nested more than 250 deep, and repetitions that unfold to
more than ten mebibytes.
-/

namespace Facet.Pattern.Regex

/-- Something that stands in a sequence. A directive such as `(?i)` cannot be repeated. The size is that
of the automaton, in bytes, and `unfolded` is the part of it that repetitions make up. -/
structure Piece where
  regex : Regex
  depth : Nat
  directive : Bool
  size : Nat
  unfolded : Nat

structure Group where
  pieces : List Piece
  branches : List Piece
  modes : Modes
  size : Nat

structure State where
  modes : Modes
  pieces : List Piece
  branches : List Piece
  groups : List Group
  names : List (List Char)

namespace Piece

def stateSize : Nat := 32

def plain (r : Regex) (size : Nat) : Piece := ⟨r, 0, false, size, 0⟩

def group (p : Piece) (size : Nat) : Piece := ⟨p.regex, p.depth + 1, false, p.size + size, p.unfolded⟩

/-- The piece is there as often as it has to be, or else once, and each time that it need not be there
is a choice of its own. -/
def times (p : Piece) (least : Nat) (most : Option Nat) : Piece :=
  let copies := max 1 (most.getD least)
  let choices := match most with
    | none => 1
    | some most => most - least
  let size := copies * p.size + choices * (stateSize + 8)
  ⟨.times p.regex least most, p.depth + 1, false, size, size⟩

def join (op : Regex → Regex → Regex) (p : Piece) (ps : List Piece) : Piece :=
  ⟨ps.foldl (fun r q => op q.regex r) p.regex, ps.foldl (fun d q => max d q.depth) p.depth + 1, false,
    ps.foldl (fun n q => n + q.size) p.size, ps.foldl (fun n q => n + q.unfolded) p.unfolded⟩

def sequence : List Piece → Piece
  | [] => plain .empty 0
  | [p] => p
  | p :: ps => join .seq p ps

def choice : List Piece → Piece
  | [] => plain .empty 0
  | [p] => p
  | p :: ps => join .alt p ps

/-- The automaton of a set of characters, by the letter that names it: those of Unicode have many
ranges. Of properties, whose sizes differ widely, this is a middling one. -/
def classSize (m : Modes) (name : Char) : Nat :=
  if !m.unicode then 3 * stateSize
  else
    match name with
    | 'w' => 50316
    | 'W' => 46900
    | 'd' => 5184
    | 'D' => 12824
    | 's' => 680
    | 'S' => 1924
    | 'p' | 'P' => 20000
    | _ => 3 * stateSize

def complementSize : Nat := 1000

end Piece

namespace State

def initial : State := ⟨.initial, [], [], [], []⟩

def push (s : State) (p : Piece) : State := { s with pieces := p :: s.pieces }

def pushSet (s : State) (a : CharSet) (size : Nat) : State := s.push (.plain (.char a) size)

def pushBetween (s : State) (b : Boundary) : State := s.push (.plain (.between b) Piece.stateSize)

def whole (s : State) : Piece := .choice (.sequence s.pieces :: s.branches)

def branch (s : State) : State :=
  { s with pieces := [], branches := .sequence s.pieces :: s.branches }

def enter (s : State) (modes : Modes) (size : Nat) : State :=
  { s with
    modes
    pieces := []
    branches := []
    groups := ⟨s.pieces, s.branches, s.modes, size⟩ :: s.groups }

def leave? (s : State) : Option State :=
  match s.groups with
  | [] => none
  | g :: groups => some ⟨g.modes, s.whole.group g.size :: g.pieces, g.branches, groups, s.names⟩

def repeat? (s : State) (least : Nat) (most : Option Nat) : Option State :=
  match s.pieces with
  | [] => none
  | p :: ps =>
    if p.directive then none
    else some { s with pieces := p.times least most :: ps }

end State

/-! ### Groups -/

def isNameChar (first : Bool) (c : Char) : Bool :=
  c == '_' || Text.Property.isAlphabetic c ||
    (!first && (c == '.' || c == '[' || c == ']' || (Text.Category.of c).isNumber))

def isName : List Char → Bool
  | [] => false
  | c :: cs => isNameChar true c && cs.all (isNameChar false)

def captureSize : Nat := 2 * Piece.stateSize

def named (s : State) (cs : List Char) : Option (State × List Char) := do
  let (name, rest) ← Atom.cutAt? ['>'] cs
  if isName name && !s.names.contains name then
    return ({ s with names := name :: s.names }.enter s.modes captureSize, rest)
  else none

/-- Flags up to `:` or `)`; after a dash they are switched off. A flag is given once, and a dash is
followed by one. -/
def flags (negated dangling : Bool) (seen : List Flag) :
    List Char → Option (List (Flag × Bool) × List Char)
  | [] => none
  | c :: cs =>
    if c = ':' ∨ c = ')' then if dangling then none else some ([], c :: cs)
    else if c = '-' then if negated then none else flags true true seen cs
    else do
      let flag ← Flag.ofChar? c
      if flag ∈ seen then none
      else
        let (rest, cs) ← flags negated false (flag :: seen) cs
        return ((flag, !negated) :: rest, cs)

def flagged (s : State) (cs : List Char) : Option (State × List Char) := do
  match ← flags false false [] cs with
  | (set, ':' :: rest) => return (s.enter (s.modes.setAll set) 0, rest)
  | ([], _) => none
  | (set, rest) => return ({ s with modes := s.modes.setAll set }.push ⟨.empty, 0, true, 0, 0⟩, rest.tail)

def group (s : State) (cs : List Char) : Option (State × List Char) :=
  match s.modes.skip cs with
  | '?' :: '=' :: _ | '?' :: '!' :: _ | '?' :: '<' :: '=' :: _ | '?' :: '<' :: '!' :: _ => none
  | '?' :: 'P' :: '<' :: cs => named s cs
  | '?' :: '<' :: cs => named s cs
  | '?' :: cs => flagged s cs
  | cs => some (s.enter s.modes captureSize, cs)

/-! ### Repetitions -/

def digits (m : Modes) : (comment : Bool) → List Char → List Char × List Char
  | _, [] => ([], [])
  | true, c :: cs => digits m (c != '\n') cs
  | false, c :: cs =>
    if c.isDigit then
      let (ds, rest) := digits m false cs
      (c :: ds, rest)
    else if m.extended && Modes.isBlank c then digits m false cs
    else if m.extended && c == '#' then digits m true cs
    else ([], c :: cs)

def count (m : Modes) (cs : List Char) : Option (Nat × List Char) :=
  let (ds, rest) := digits m false (cs.dropWhile Modes.isBlank)
  let n := ds.foldl (fun n c => 10 * n + (c.toNat - '0'.toNat)) 0
  if ds.isEmpty || 0xFFFF_FFFF < n then none else some (n, rest.dropWhile Modes.isBlank)

def bounds (m : Modes) (cs : List Char) : Option ((Nat × Option Nat) × List Char) := do
  match ← count m (m.skip cs) with
  | (least, '\x7d' :: rest) => return ((least, some least), rest)
  | (least, ',' :: rest) =>
    match m.skip rest with
    | '\x7d' :: rest => return ((least, none), rest)
    | rest =>
      match ← count m rest with
      | (most, '\x7d' :: rest) => if least ≤ most then return ((least, some most), rest) else none
      | _ => none
  | _ => none

def dropLazy : List Char → List Char
  | '?' :: cs => cs
  | cs => cs

def repeated (s : State) (least : Nat) (most : Option Nat) (cs : List Char) :
    Option (State × List Char) :=
  (s.repeat? least most).map fun s => (s, dropLazy cs)

/-! ### Expressions -/

def pushAtom (s : State) (name : Char) : Atom × List Char → Option (State × List Char)
  | (.literal c byte, cs) =>
    (s.modes.literal? byte c).map fun a => (s.pushSet a (c.utf8Size * Piece.stateSize), cs)
  | (.set a, cs) => some (s.pushSet a (Piece.classSize s.modes name), cs)
  | (.between b, cs) => some (s.pushBetween b, cs)

def step (s : State) : List Char → Option (State × List Char)
  | [] => none
  | '(' :: cs => group s cs
  | ')' :: cs => s.leave?.map fun s => (s, cs)
  | '|' :: cs => some (s.branch, cs)
  | '[' :: cs =>
    let size := if cs.head? = some '^' then Piece.complementSize else 3 * Piece.stateSize
    (Bracket.set s.modes cs).map fun (a, rest) => (s.push ⟨.char a.value, a.depth, false, size, 0⟩, rest)
  | '?' :: cs => repeated s 0 (some 1) cs
  | '*' :: cs => repeated s 0 none cs
  | '+' :: cs => repeated s 1 none cs
  | '\x7b' :: cs => do
    let ((least, most), rest) ← bounds s.modes cs
    repeated s least most (s.modes.skip rest)
  | '\\' :: cs => (Atom.escaped s.modes cs).bind (pushAtom s (cs.headD '\\'))
  | '.' :: cs => s.modes.dot?.map fun a => (s.pushSet a Piece.complementSize, cs)
  | '^' :: cs => some (s.pushBetween s.modes.caret, cs)
  | '$' :: cs => some (s.pushBetween s.modes.dollar, cs)
  | c :: cs => pushAtom s c (.literal c false, cs)

def readAll (s : State) (cs : List Char) : Option State :=
  match s.modes.skip cs with
  | [] => some s
  | next =>
    match step s next with
    | none => none
    | some (s, rest) => if rest.length < cs.length then readAll s rest else none
termination_by cs.length

def depthLimit : Nat := 250

def unfoldedLimit : Nat := 10 * 1024 * 1024

def ofText? (pattern : String) : Option Regex := do
  let s ← readAll .initial pattern.toList
  if s.groups.isEmpty && s.whole.depth ≤ depthLimit && s.whole.unfolded ≤ unfoldedLimit then
    some s.whole.regex
  else none

end Facet.Pattern.Regex
