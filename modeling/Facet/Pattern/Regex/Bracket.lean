import Facet.Pattern.Regex.Escape

namespace Facet.Pattern

structure Nested (α : Type) where
  value : α
  depth : Nat

namespace Bracket

inductive Op
  | inter | diff | symmDiff
  deriving DecidableEq

def Op.apply : Op → CharSet → CharSet → CharSet
  | .inter, a, b => fun c => a c && b c
  | .diff, a, b => fun c => a c && !b c
  | .symmDiff, a, b => fun c => a c != b c

structure Members where
  set : CharSet
  count : Nat
  depth : Nat

namespace Members

def none : Members := ⟨.none, 0, 0⟩

def add (ms : Members) (a : CharSet) (depth : Nat) : Members :=
  ⟨ms.set.union a, ms.count + 1, max ms.depth depth⟩

def whole (ms : Members) : Nested CharSet := ⟨ms.set, if ms.count ≤ 1 then ms.depth else ms.depth + 1⟩

end Members

structure Level where
  negated : Bool
  operation : Option (Op × Nested CharSet)
  members : Members

namespace Level

def whole (m : Modes) (l : Level) : Nested CharSet :=
  match l.operation with
  | none => l.members.whole
  | some (op, left) =>
    let right := l.members.whole
    ⟨op.apply (m.fold left.value) (m.fold right.value), max left.depth right.depth + 1⟩

def operate (m : Modes) (op : Op) (l : Level) : Level :=
  { l with operation := some (op, l.whole m), members := .none }

def close? (m : Modes) (l : Level) : Option (Nested CharSet) :=
  let whole := l.whole m
  (m.compl? l.negated (m.fold whole.value)).map fun a => ⟨a, whole.depth + 1⟩

def add (l : Level) (a : CharSet) (depth : Nat) : Level := { l with members := l.members.add a depth }

end Level

def single? (m : Modes) (c : Char) : Option CharSet :=
  if !m.unicode && 0x80 ≤ c.val then none else some (.one c)

def range? (m : Modes) (first last : Char) : Option CharSet :=
  if !m.unicode && (0x80 ≤ first.val || 0x80 ≤ last.val) then none
  else if first ≤ last then some (.range first last) else none

def ascii? : List Char → Option (Bool × CharSet × List Char)
  | ':' :: cs =>
    let (negated, cs) := match cs with
      | '^' :: cs => (true, cs)
      | cs => (false, cs)
    match Atom.cutAt? [':'] cs with
    | some (name, ']' :: rest) => (CharSet.ascii? (.ofList name)).map fun a => (negated, a, rest)
    | _ => none
  | _ => none

def dashes (m : Modes) (ms : Members) : List Char → Members × List Char
  | '-' :: cs => dashes m (ms.add (.one '-') 0) (m.skip cs)
  | cs => (ms, cs)
termination_by cs => cs.length
decreasing_by simp only [List.length_cons]; have := m.length_skip_le cs; omega

/-- The beginning of a set, behind its bracket: a caret negates it, and dashes, or else one closing
bracket, are members. -/
def opening (m : Modes) (cs : List Char) : Level × List Char :=
  let cs := m.skip cs
  let (negated, cs) := match cs with
    | '^' :: cs => (true, m.skip cs)
    | cs => (false, cs)
  let (ms, cs) := dashes m .none cs
  match cs with
  | ']' :: rest =>
    if ms.count = 0 then (⟨negated, none, .add .none (.one ']') 0⟩, m.skip rest)
    else (⟨negated, none, ms⟩, cs)
  | _ => (⟨negated, none, ms⟩, cs)

def atom (m : Modes) : List Char → Option (Atom × List Char)
  | [] => none
  | '\\' :: cs => Atom.escaped m cs
  | c :: cs => some (.literal c false, cs)

def member (m : Modes) (cs : List Char) : Option (CharSet × List Char) := do
  let (first, cs) ← atom m cs
  let alone (cs : List Char) : Option (CharSet × List Char) :=
    match first with
    | .literal c _ => (single? m c).map fun a => (a, cs)
    | .set a => some (a, cs)
    | .between _ => none
  match m.skip cs with
  | '-' :: rest =>
    if m.peek rest = some ']' ∨ m.peek rest = some '-' then alone ('-' :: rest)
    else
      let (last, cs) ← atom m (m.skip rest)
      match first, last with
      | .literal a _, .literal b _ => (range? m a b).map fun a => (a, cs)
      | _, _ => none
  | cs => alone cs

def read (m : Modes) (l : Level) (outer : List Level) (cs : List Char) :
    Option (Nested CharSet × List Char) :=
  let next (l : Level) (outer : List Level) (rest : List Char) :
      Option (Nested CharSet × List Char) :=
    if rest.length < cs.length then read m l outer rest else none
  match m.skip cs with
  | [] => none
  | '[' :: rest =>
    match ascii? rest with
    | some (negated, a, rest) => (m.compl? negated (m.fold a)).bind fun a => next (l.add a 0) outer rest
    | none =>
      let (inner, rest) := opening m rest
      next inner (l :: outer) rest
  | ']' :: rest =>
    match l.close? m, outer with
    | none, _ => none
    | some a, [] => some (a, rest)
    | some a, l :: outer => next (l.add a.value a.depth) outer rest
  | '&' :: '&' :: rest => next (l.operate m .inter) outer rest
  | '-' :: '-' :: rest => next (l.operate m .diff) outer rest
  | '~' :: '~' :: rest => next (l.operate m .symmDiff) outer rest
  | cs => (member m cs).bind fun (a, rest) => next (l.add a 0) outer rest
termination_by cs.length

def set (m : Modes) (cs : List Char) : Option (Nested CharSet × List Char) :=
  let (l, rest) := opening m cs
  read m l [] rest

end Bracket

end Facet.Pattern
