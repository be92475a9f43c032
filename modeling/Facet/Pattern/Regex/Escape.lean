import Facet.Pattern.Regex.Modes

namespace Facet.Pattern

inductive Atom
  | literal : Char → (byte : Bool) → Atom
  | set : CharSet → Atom
  | between : Boundary → Atom

namespace Atom

def isMeta (c : Char) : Bool := "\\.+*?()|[]\x7b\x7d^$#&-~".toList.contains c

/-- Everything in ASCII that is neither a letter nor a digit may be escaped, but for the angle
brackets, which are boundaries. -/
def isEscapable (c : Char) : Bool :=
  isMeta c || (c.val < 0x80 && !c.isAlphanum && c != '<' && c != '>')

def hexValue? (c : Char) : Option Nat :=
  if c.isDigit then some (c.toNat - '0'.toNat)
  else if 'a' ≤ c ∧ c ≤ 'f' then some (c.toNat - 'a'.toNat + 10)
  else if 'A' ≤ c ∧ c ≤ 'F' then some (c.toNat - 'A'.toNat + 10)
  else none

def charOf? (n : Nat) : Option Char :=
  if (Char.ofNat n).toNat = n then some (Char.ofNat n) else none

def ofHex? (digits : List Char) : Option Char := do
  let values ← digits.mapM hexValue?
  if values.isEmpty then none else charOf? (values.foldl (fun n v => 16 * n + v) 0)

def hexDigits (m : Modes) : Nat → List Char → Option (List Char × List Char)
  | 0, cs => some ([], cs)
  | _ + 1, [] => none
  | n + 1, c :: cs => (hexDigits m n (m.skip cs)).map fun (digits, rest) => (c :: digits, rest)

def hex (m : Modes) (n : Nat) (cs : List Char) : Option (Atom × List Char) :=
  match m.skip cs with
  | '\x7b' :: cs => do
    let (digits, rest) ← m.collect '\x7d' false cs
    return (.literal (← ofHex? digits) false, rest)
  | cs => do
    let (digits, rest) ← hexDigits m n cs
    return (.literal (← ofHex? digits) (n == 2), rest)

def cutAt? (sep : List Char) : List Char → Option (List Char × List Char)
  | [] => none
  | c :: cs =>
    if sep.isPrefixOf (c :: cs) then some ([], (c :: cs).drop sep.length)
    else (cutAt? sep cs).map fun (name, value) => (c :: name, value)

def query (text : List Char) : Option CharSet :=
  match cutAt? ['!', '='] text with
  | some (name, value) => CharSet.valued? name value
  | none =>
    match cutAt? [':'] text with
    | some (name, value) => CharSet.valued? name value
    | none =>
      match cutAt? ['='] text with
      | some (name, value) => CharSet.valued? name value
      | none => CharSet.named? text

def property (m : Modes) (negated : Bool) (cs : List Char) : Option (Atom × List Char) :=
  match m.skip cs with
  | [] | '\\' :: _ => none
  | '\x7b' :: cs => do
    let (text, rest) ← m.collect '\x7d' false cs
    return (.set (← m.property? negated (query text)), rest)
  | c :: cs => do return (.set (← m.property? negated (CharSet.named? [c])), cs)

def isBoundaryName (c : Char) : Bool := c.isAlpha || c == '-'

def wordEdge (m : Modes) (cs : List Char) : Option (Atom × List Char) :=
  let plain := some (.between (.wordEdge m.word), cs)
  match cs with
  | '\x7b' :: inside =>
    match m.skip inside with
    | [] => none
    | c :: _ =>
      if isBoundaryName c then do
        let (name, rest) ← m.collect '\x7d' false inside
        match String.ofList name with
        | "start" => some (.between (.wordStart m.word), rest)
        | "end" => some (.between (.wordEnd m.word), rest)
        | "start-half" => some (.between (.afterNonWord m.word), rest)
        | "end-half" => some (.between (.beforeNonWord m.word), rest)
        | _ => none
      else plain
  | _ => plain

def set? (a : Option CharSet) (cs : List Char) : Option (Atom × List Char) :=
  a.map fun a => (.set a, cs)

def escaped (m : Modes) : List Char → Option (Atom × List Char)
  | [] => none
  | 'x' :: cs => hex m 2 cs
  | 'u' :: cs => hex m 4 cs
  | 'U' :: cs => hex m 8 cs
  | 'p' :: cs => property m false cs
  | 'P' :: cs => property m true cs
  | 'd' :: cs => set? (m.compl? false m.digit) cs
  | 'D' :: cs => set? (m.compl? true m.digit) cs
  | 's' :: cs => set? (m.compl? false m.space) cs
  | 'S' :: cs => set? (m.compl? true m.space) cs
  | 'w' :: cs => set? (m.compl? false m.word) cs
  | 'W' :: cs => set? (m.compl? true m.word) cs
  | 'a' :: cs => some (.literal '\x07' false, cs)
  | 'f' :: cs => some (.literal '\x0c' false, cs)
  | 't' :: cs => some (.literal '\t' false, cs)
  | 'n' :: cs => some (.literal '\n' false, cs)
  | 'r' :: cs => some (.literal '\r' false, cs)
  | 'v' :: cs => some (.literal '\x0b' false, cs)
  | 'A' :: cs => some (.between .textStart, cs)
  | 'z' :: cs => some (.between .textEnd, cs)
  | 'b' :: cs => wordEdge m cs
  | 'B' :: cs => some (.between (.noWordEdge m.word), cs)
  | '<' :: cs => some (.between (.wordStart m.word), cs)
  | '>' :: cs => some (.between (.wordEnd m.word), cs)
  | c :: cs => if isEscapable c then some (.literal c false, cs) else none

end Atom

end Facet.Pattern
