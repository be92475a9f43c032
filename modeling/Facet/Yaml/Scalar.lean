import Facet.Yaml.Source

namespace Facet.Yaml

inductive Style
  | plain | singleQuoted | doubleQuoted | literal | folded
  deriving DecidableEq

/-- What stands between two words of a flowing scalar, latest character first: blanks within a line,
the end of a line with the ends of empty lines after it, or a line end that is escaped. -/
inductive Gap
  | none
  | blanks : List Char → Gap
  | lines : (first : Char) → (rest : List Char) → Gap
  | escaped : List Char → Gap

namespace Gap

def blank (c : Char) : Gap → Gap
  | .none => .blanks [c]
  | .blanks cs => .blanks (c :: cs)
  | gap => gap

def lineEnd (c : Char) : Gap → Gap
  | .none | .blanks _ => .lines c []
  | .lines first rest => .lines first (c :: rest)
  | .escaped rest => .escaped (c :: rest)

def isNone : Gap → Bool
  | .none => true
  | _ => false

def endsLine : Gap → Bool
  | .lines .. => true
  | _ => false

def text : Gap → List Char
  | .none => []
  | .blanks cs => cs
  | .lines '\n' [] => [' ']
  | .lines '\n' rest => rest
  | .lines first rest => rest ++ [first]
  | .escaped rest => rest

end Gap

/-! ### Plain scalars -/

structure Plain where
  text : List Char
  broken : Bool
  source : Source

def isFlowMark (c : Char) : Bool := c = ',' || c = '[' || c = ']' || c = '\x7b' || c = '\x7d'

/-- Reads on in a plain scalar that began at `start`, has the text `text` so far, latest character first,
and whose lines have to be indented by `indent` outside flow collections. -/
def plainFrom (start : Mark) (indent : Int) (flow : Bool) (text : List Char) (gap : Gap) (m : Mark) :
    List Char → Except Fault Plain
  | [] => .ok ⟨text.reverse, gap.endsLine, ⟨m, []⟩⟩
  | c :: cs =>
    let done := .ok ⟨text.reverse, gap.endsLine, ⟨m, c :: cs⟩⟩
    if isBlank c then
      if gap.endsLine && c = '\t' && m.column < indent then
        .error (.during .tabInPlain m .plainScalar start)
      else plainFrom start indent flow text (gap.blank c) (m.after c) cs
    else if isBreak c then plainFrom start indent flow text (gap.lineEnd c) (m.after c) cs
    else if !gap.isNone && ((!flow && m.column < indent) || c = '#') then done
    else if m.column = 0 && atIndicator (c :: cs) then done
    else if flow && c = ':' && (cs.head?.any fun d => isFlowMark d || d = '?') then
      .error (.during .plainColon m .plainScalar start)
    else if (c = ':' && atBlank cs) || (flow && isFlowMark c) then done
    else plainFrom start indent flow (c :: (gap.text ++ text)) .none (m.after c) cs

/-! ### Quoted scalars -/

def simpleEscape? : Char → Option Char
  | '0' => some '\x00'
  | 'a' => some '\x07'
  | 'b' => some '\x08'
  | 't' | '\t' => some '\t'
  | 'n' => some '\n'
  | 'v' => some '\x0b'
  | 'f' => some '\x0c'
  | 'r' => some '\r'
  | 'e' => some '\x1b'
  | ' ' => some ' '
  | '"' => some '"'
  | '/' => some '/'
  | '\\' => some '\\'
  | 'N' => some '\u0085'
  | '_' => some '\u00a0'
  | 'L' => some '\u2028'
  | 'P' => some '\u2029'
  | _ => none

def codeLength? : Char → Option Nat
  | 'x' => some 2
  | 'u' => some 4
  | 'U' => some 8
  | _ => none

def hexValue? (c : Char) : Option Nat :=
  if c.isDigit then some (c.toNat - '0'.toNat)
  else if 'a' ≤ c ∧ c ≤ 'f' then some (c.toNat - 'a'.toNat + 10)
  else if 'A' ≤ c ∧ c ≤ 'F' then some (c.toNat - 'A'.toNat + 10)
  else none

structure Code where
  missing : Nat
  value : Nat
  start : Mark

def quotedFrom (start : Mark) (single : Bool) (text : List Char) (gap : Gap) (code : Option Code)
    (m : Mark) : List Char → Except Fault (List Char × Source)
  | [] =>
    match code with
    | some code => .error (.during .notHexadecimal code.start .quotedEscape start)
    | none => .error (.during .textEnds m .quotedScalar start)
  | c :: cs =>
    match code with
    | some ⟨missing, value, place⟩ =>
      match hexValue? c with
      | none => .error (.during .notHexadecimal place .quotedEscape start)
      | some digit =>
        let value := 16 * value + digit
        if 1 < missing then
          quotedFrom start single text gap (some ⟨missing - 1, value, place⟩) (m.after c) cs
        else if value.isValidChar then
          quotedFrom start single (.ofNat value :: text) gap none (m.after c) cs
        else .error (.during .noCharacter place .quotedEscape start)
    | none =>
      if m.column = 0 && atIndicator (c :: cs) then
        .error (.during .documentIndicator m .quotedScalar start)
      else if isBlank c then quotedFrom start single text (gap.blank c) none (m.after c) cs
      else if isBreak c then quotedFrom start single text (gap.lineEnd c) none (m.after c) cs
      else
        let text := gap.text ++ text
        let m' := m.after c
        if single then
          if c = '\'' then
            match cs with
            | '\'' :: cs => quotedFrom start single ('\'' :: text) .none none (m'.after '\'') cs
            | cs => .ok (text.reverse, ⟨m', cs⟩)
          else quotedFrom start single (c :: text) .none none m' cs
        else if c = '"' then .ok (text.reverse, ⟨m', cs⟩)
        else if c = '\\' then
          match cs with
          | [] => .error (.during .unknownEscape m .quotedEscape start)
          | d :: cs =>
            if isBreak d then quotedFrom start single text (.escaped []) none (m'.after d) cs
            else
              match simpleEscape? d, codeLength? d with
              | some e, _ => quotedFrom start single (e :: text) .none none (m'.after d) cs
              | none, some n =>
                quotedFrom start single text .none (some ⟨n, 0, m'.after d⟩) (m'.after d) cs
              | none, none => .error (.during .unknownEscape m .quotedEscape start)
        else quotedFrom start single (c :: text) .none none m' cs

/-! ### Block scalars -/

inductive Chomping
  | strip | clip | keep

/-- Skips indentation and the ends of empty lines. An indentation of zero is not known yet; it becomes
that of the deepest line, and more than that of the collection around. -/
def blockBreaks (start : Mark) (outer : Int) (indent deepest : Nat) (breaks : List Char) (m : Mark) :
    List Char → Except Fault (Nat × List Char × Source)
  | [] => .ok (settled, breaks, ⟨m, []⟩)
  | c :: cs =>
    if (indent = 0 || m.column < indent) && c = ' ' then
      blockBreaks start outer indent deepest breaks (m.after c) cs
    else if (indent = 0 || m.column < indent) && c = '\t' then
      .error (.during .tabIndentation m .blockScalar start)
    else if isBreak c then
      blockBreaks start outer indent (max deepest m.column) (c :: breaks) (m.after c) cs
    else .ok (settled, breaks, ⟨m, c :: cs⟩)
where
  settled : Nat :=
    if indent = 0 then max (max deepest m.column) (max (outer + 1).toNat 1) else indent

/-- What is carried from line to line: the text, the end of the last line and of the empty lines after
it, all latest character first, and whether the last line began with a blank. -/
structure Block where
  text : List Char
  ended : Option Char
  breaks : List Char
  blank : Bool

namespace Block

/-- What joins the last line to the next one. In a folded scalar a single line end between lines that do
not begin with blanks becomes a space. -/
def joint (b : Block) (literal blank : Bool) : List Char :=
  if !literal && b.ended = some '\n' && !b.blank && !blank then
    if b.breaks.isEmpty then [' '] else b.breaks
  else b.breaks ++ b.ended.toList

def finish (b : Block) : Chomping → List Char
  | .strip => b.text.reverse
  | .clip => (b.ended.toList ++ b.text).reverse
  | .keep => (b.breaks ++ b.ended.toList ++ b.text).reverse

end Block

def blockLines (start : Mark) (outer : Int) (literal : Bool) (indent : Nat) (b : Block) (s : Source) :
    Except Fault (Block × Source) :=
  match s.rest with
  | [] => .ok (b, s)
  | c :: _ =>
    if s.mark.column = indent then do
      let text := b.joint literal (isBlank c) ++ b.text
      let (line, s₁) := s.take fun c => !isBreak c
      let s₂ := s₁.skip
      let (_, breaks, s₃) ← blockBreaks start outer indent 0 [] s₂.mark s₂.rest
      if s₃.rest.length < s.rest.length then
        blockLines start outer literal indent
          ⟨line.reverse ++ text, s₁.rest.head?, breaks, isBlank c⟩ s₃
      else .ok (b, s)
    else .ok (b, s)
termination_by s.rest.length

def blockHeader (start : Mark) (s : Source) : Except Fault (Chomping × Nat × Source) :=
  let chomping (c : Char) : Chomping := if c = '+' then .keep else .strip
  let digit (m : Mark) (c : Char) : Except Fault Nat :=
    if c = '0' then .error (.during .zeroIndentation m .blockScalar start)
    else .ok (c.toNat - '0'.toNat)
  match s.rest with
  | c :: cs =>
    if c = '+' || c = '-' then
      match cs with
      | d :: _ =>
        if d.isDigit then do return (chomping c, ← digit s.skip.mark d, s.skip.skip)
        else .ok (chomping c, 0, s.skip)
      | [] => .ok (chomping c, 0, s.skip)
    else if c.isDigit then do
      let increment ← digit s.mark c
      match cs with
      | d :: _ =>
        if d = '+' || d = '-' then return (chomping d, increment, s.skip.skip)
        else return (.clip, increment, s.skip)
      | [] => return (.clip, increment, s.skip)
    else .ok (.clip, 0, s)
  | [] => .ok (.clip, 0, s)

def block (literal : Bool) (outer : Int) (s : Source) : Except Fault (List Char × Source) := do
  let start := s.mark
  let (chomping, increment, s) ← blockHeader start s.skip
  let s := s.skipBlanks.skipComment
  if !atBreak s.rest then .error (.during .lineNotEnded s.mark .blockScalar start)
  else
    let s := s.skip
    let indent := if increment = 0 then 0 else (max outer 0).toNat + increment
    let (indent, breaks, s) ← blockBreaks start outer indent 0 [] s.mark s.rest
    let (b, s) ← blockLines start outer literal indent ⟨[], none, breaks, false⟩ s
    return (b.finish chomping, s)

end Facet.Yaml
